import Mathlib.Data.List.Basic
import Vigil.Proofs.Query.Comparisons

/-! # Texts as literals

Every text can be written between quotes, with a backslash before each quote and each backslash
(`literalText`), and is then compared as it is.

* `tokens?_append_literalText`: wherever the literal stands, it is one token, the text;
* `accepts_text_iff`: a text that is compared as it is accepts itself only;
* `text_literals`: both together, for the queries with the literal. -/

namespace Vigil.Query

open Vigil.Text

variable {s : String} {c : Char} {field : String}

/-! ### Tokens -/

/-- A character between quotes, with a backslash where it would end the text or begin an escape. -/
def backslashed (c : Char) : List Char := if c = '"' ∨ c = '\\' then ['\\', c] else [c]

/-- A text as a literal of a query. -/
def literalText (s : String) : String := String.ofList ('"' :: (s.toList.flatMap backslashed ++ ['"']))

theorem reads_backslashed (c : Char) (start : Nat) (before : List Char) :
    Reads (.text start before) (backslashed c) [] (.text start (c :: before)) := by
  unfold backslashed
  split_ifs with h
  · rcases h with rfl | rfl
    · exact reads_escape rfl
    · exact reads_escape rfl
  · have hc : ∀ d ∈ [c], d ≠ '"' ∧ d ≠ '\\' := List.forall_mem_singleton.mpr (not_or.mp h)
    exact reads_unescaped hc start before

/-- Between tokens the literal of a text is read whole, and as this text. -/
theorem reads_literalText (s : String) :
    Reads .nothing (literalText s).toList [.literal (.text s)] .nothing := by
  have hread := reads_quoted (r := fun c => [c]) fun c (_ : c ∈ s.toList) => reads_backslashed c
  rw [literalText, String.toList_ofList]
  simpa using hread

theorem spells_literalText (s : String) : Spells (literalText s).toList [.literal (.text s)] :=
  (reads_literalText s).spells .nothing

/-- After a text with tokens and before any text, the literal of a text is one token. -/
theorem tokens?_append_literalText {as bs : List Char} {ts : List Token} (has : tokens? as = .ok ts) :
    tokens? (as ++ (literalText s).toList ++ bs) =
      shifted (String.ofList (as ++ (literalText s).toList)).utf8ByteSize
        (ts ++ [.literal (.text s)] ++ ·) (tokens? bs) := by
  have hends : Ends '"' := by decide
  have hread := reads_literalText s
  rw [literalText, String.toList_ofList] at hread ⊢
  exact tokens?_append_reads has hends hread

/-! ### Queries -/

theorem accepts_text_iff {values : List Literal} {r : Scalar} :
    (Form.member true values).Accepts (.text s) r ↔ r = .text s := by
  have hpattern {u : String} : (Pattern.ofText s.toList true).isMatch u.toList = true ↔ u = s := by
    rw [isMatch_ofText_iff_equal, if_pos rfl, String.toList_inj]
    exact eq_comm
  simp only [Form.Accepts, Form.pattern?, Option.some.injEq, exists_and_left, exists_eq_left', hpattern]
  constructor
  · rintro ⟨u, rfl, rfl⟩
    rfl
  · rintro rfl
    exact ⟨s, rfl, rfl⟩

/-- **Texts as literals.** The literal of any text is one token, which is this text: it can follow
any text that has tokens, and any text can follow it, which then has the tokens or the error that it
has by itself. So a field with a text in it is `in` the list of this literal if and only if it is
the same text, and equal to the literal too, where this has no star. -/
theorem text_literals (s : String) :
    (∀ (a b : String) (ts : List Token), tokens? a.toList = .ok ts →
      tokens? (a ++ literalText s ++ b).toList = match tokens? b.toList with
        | .ok us => .ok (ts ++ .literal (.text s) :: us)
        | .error e => .error (e.shift (a ++ literalText s).utf8ByteSize)) ∧
    ∀ field : String, IsIdentifier field →
      (∃ q, readCondition? (field ++ " in (" ++ literalText s ++ ")") = .ok q ∧
        ∀ (e : Event) (t : String), e.find? field = some (.scalar (.text t)) →
          (q.selects e = true ↔ t = s)) ∧
      ('*' ∉ s.toList → ∃ q, readCondition? (field ++ " == " ++ literalText s) = .ok q ∧
        ∀ (e : Event) (t : String), e.find? field = some (.scalar (.text t)) →
          (q.selects e = true ↔ t = s)) := by
  refine ⟨fun a b ts ha => ?_, fun field hfield => ⟨?_, fun hstar => ?_⟩⟩
  · have happend : tokens? (a.toList ++ (literalText s).toList ++ b.toList) = _ :=
      tokens?_append_literalText ha
    rw [← String.toList_append, String.ofList_toList] at happend
    rw [String.toList_append, happend]
    rcases tokens? b.toList with e | us
    · rfl
    · exact congrArg Except.ok (List.append_assoc _ _ _)
  · have hspells : ∀ u ∈ [s], Spells (literalText u).toList [.literal (.text u)] :=
      fun u _ => spells_literalText u
    obtain ⟨q, t, hq, hseeks, hselects⟩ := exists_query_member hfield hspells
    refine ⟨q, by simpa using hq, fun e u he => ?_⟩
    rw [hselects e, hseeks.holds_scalar_iff he]
    simp only [List.mem_singleton, exists_eq_left, accepts_text_iff, Scalar.text.injEq]
  · obtain ⟨q, t, hq, -, hseeks, hselects⟩ := exists_query_equal hfield (spells_literalText s)
      fun u hu => Literal.text.inj hu ▸ hstar
    refine ⟨q, hq, fun e u he => ?_⟩
    rw [hselects e, hseeks.holds_scalar_iff he, accepts_text_iff, Scalar.text.injEq]

/-- A backslash before a quote and one before a letter, between signs, and a text with a newline in
place of the latter. -/
theorem text_literals_backslashes : literalText "\\\"\\n" = "\"\\\\\\\"\\\\n\"" ∧
    tokens? ("f:" ++ literalText "\\\"\\n" ++ "(").toList =
      .ok [.identifier "f", .comparison .similar, .literal (.text "\\\"\\n"), .opening] ∧
    ∃ q, readCondition? ("f" ++ " == " ++ literalText "\\\"\\n") = .ok q ∧
      q.selects ⟨[("f", .text "\\\"\\n")]⟩ = true ∧ q.selects ⟨[("f", .text "\\\"\n")]⟩ = false := by
  have hfield : IsIdentifier "f" := ⟨Or.inl (by decide), by decide +kernel⟩
  have hbefore : tokens? "f:".toList = .ok [.identifier "f", .comparison .similar] := by
    rw [← toOption_eq_some]
    decide +kernel
  have htokens := (text_literals "\\\"\\n").1 "f:" "(" _ hbefore
  obtain ⟨q, hq, hselects⟩ := ((text_literals "\\\"\\n").2 "f" hfield).2 (by decide)
  refine ⟨by decide, htokens, q, hq, (hselects _ _ rfl).mpr rfl, ?_⟩
  rw [Bool.eq_false_iff, ne_eq, hselects _ "\\\"\n" rfl]
  decide

end Vigil.Query
