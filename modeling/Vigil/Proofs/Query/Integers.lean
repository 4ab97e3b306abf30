import Mathlib.Data.List.Basic
import Vigil.Proofs.Event.Integers
import Vigil.Proofs.Query.Comparisons

/-! # Integers in queries

Queries and JSON texts read integers on their own: the one within 64 bits with a sign, the other
also without a sign and, rounded, far beyond. Where both read an integer, they agree on which it is.

* `tokens?_compare_of_not_fits`: an integer that does not fit is no literal;
* `accepts_integer_iff`: one that fits accepts no other that is read from a JSON text;
* `integers_meet`: both together, for the queries with integers. -/

namespace Vigil.Query

open Vigil.Text

variable {n m : Int} {field : String}

/-! ### Literals -/

theorem spells_toString (h : FitsInt64 n) :
    Spells (toString n).toList [.literal (.integer (Int64.ofInt n))] := by
  have hrender : (Literal.integer (Int64.ofInt n)).render = toString n := by
    rw [Literal.render, h.toInt_ofInt]
  rw [← hrender]
  exact spells_integer (Int64.ofInt n)

theorem tokens?_toString_of_not_fits (h : ¬ FitsInt64 n) :
    tokens? (toString n).toList = .error (.invalidNumber (toString n)) := by
  obtain ⟨s, hrun, hpending, -⟩ := reads_toString n {} rfl
  have hnone : integer? (toString n).toList = none := (integer?_toString n).trans (if_neg h)
  rw [tokens?, hrun]
  simp only [Except.bind, LexerState.finish, hpending, LexerState.close, List.reverse_reverse, hnone,
    String.ofList_toList]
  rfl

/-- A comparison with an integer that does not fit has no tokens. -/
theorem tokens?_compare_of_not_fits (comparison : Comparison) (hfield : IsIdentifier field)
    (h : ¬ FitsInt64 n) :
    tokens? (field ++ " " ++ comparison.sign ++ " " ++ toString n).toList =
      .error (.invalidNumber (toString n)) := by
  have hbefore : tokens? (field ++ " " ++ comparison.sign).toList =
      .ok [.identifier field, .comparison comparison] := by
    have hsign := (spells_nil.comparison comparison).blank
    have hspells := (spells_identifier hfield).append (d := ' ') (by decide) hsign
    exact tokens?_of_spells (by simpa using hspells)
  have hblank : ∀ c ∈ [' '], isBlank c = true := List.forall_mem_singleton.mpr (by decide)
  have happend :
      tokens? ((field ++ " " ++ comparison.sign).toList ++ [' '] ++ (toString n).toList) =
        .error (.invalidNumber (toString n)) := by
    rw [tokens?_append_blanks hbefore (List.cons_ne_nil _ _) hblank, tokens?_toString_of_not_fits h]
    rfl
  simpa using happend

/-! ### Integers of JSON texts -/

theorem isPlain_of_isIdentifier (hfield : IsIdentifier field) :
    ∀ c ∈ field.toList, Json.IsPlain c := by
  have hlow : ∀ k < 32, continuesWord (Char.ofNat k) = false := by decide +kernel
  intro c hc
  have hword := hfield.continuesWord hc
  refine ⟨?_, ?_, ?_⟩
  · rintro rfl
    revert hword
    decide
  · rintro rfl
    revert hword
    decide
  · by_contra hlt
    rcases hword with hword | rfl
    · have hfalse := hlow c.toNat (Nat.not_le.mp hlt)
      rw [Char.ofNat_toNat] at hfalse
      cases hfalse.symm.trans hword
    · exact hlt (by decide)

/-- An integer that fits accepts what holds an integer of 64 bits only if it is the same. -/
theorem accepts_integer_iff {values : List Literal} {s : Scalar} (h : FitsInt64 n)
    (hs : ∀ i, s = .int i ↔ i.toInt = m) :
    (Form.member true values).Accepts (.integer (Int64.ofInt n)) s ↔ n = m := by
  rw [Form.Accepts, hs, h.toInt_ofInt]

/-- **Integers of queries and of JSON texts.** A field is compared with an integer as it is written,
of any size: the number is invalid if and only if it does not fit 64 bits with a sign. On the event
of an object that has an integer of any size in this field, if the object is read, as it is where
the digits fit 64 bits, the field is equal to the integer if and only if it is the same integer,
unequal to it if and only if it is not, and `in` a list of integers if and only if it is one of
these. -/
theorem integers_meet (hfield : IsIdentifier field) :
    (∀ n : Int, (∃ digits, readCondition? (field ++ " == " ++ toString n) =
      .error (.invalidNumber digits)) ↔ ¬ FitsInt64 n) ∧
    (∀ n : Int, FitsInt64 n → ∃ q q',
      readCondition? (field ++ " == " ++ toString n) = .ok q ∧
      readCondition? (field ++ " != " ++ toString n) = .ok q' ∧
      ∀ (m : Int) (e : Event), Event.read? (integerText field m) = .ok e →
        (q.selects e = true ↔ n = m) ∧ q'.selects e = !q.selects e) ∧
    (∀ (n : Int) (ns : List Int), (∀ k ∈ n :: ns, FitsInt64 k) → ∃ q,
      readCondition? (field ++ " in (" ++ ", ".intercalate ((n :: ns).map toString) ++ ")") = .ok q ∧
      ∀ (m : Int) (e : Event), Event.read? (integerText field m) = .ok e →
        (q.selects e = true ↔ m ∈ n :: ns)) ∧
    ∀ m : Int, m.natAbs < 2 ^ 64 → ∃ e, Event.read? (integerText field m) = .ok e := by
  have hplain : ∀ c ∈ field.toList, Json.IsPlain c := isPlain_of_isIdentifier hfield
  refine ⟨fun n => ⟨?_, fun h => ⟨toString n, ?_⟩⟩, fun n h => ?_, fun n ns h => ?_,
    fun m => exists_event_integerText hplain⟩
  · rintro ⟨digits, herror⟩ h
    obtain ⟨q, -, hq, -⟩ := exists_query_equal hfield (spells_toString h) (by rintro u ⟨⟩)
    cases herror.symm.trans hq
  · have htokens : tokens? (field ++ " == " ++ toString n).toList =
        .error (.invalidNumber (toString n)) := by
      simpa [Comparison.sign, String.append_assoc] using
        tokens?_compare_of_not_fits .equal hfield h
    rw [readCondition?, htokens]
    rfl
  · obtain ⟨q, t, hq, ht, hseeks, hselects⟩ :=
      exists_query_equal hfield (spells_toString h) (by rintro u ⟨⟩)
    obtain ⟨q', hq', hselects'⟩ := exists_query_unequal hfield (spells_toString h) ht
    refine ⟨q, q', hq, hq', fun m e he => ?_⟩
    obtain ⟨s, hs, hint⟩ := exists_of_read?_integerText hplain he
    rw [hselects e, hselects' e _ hs, hseeks.holds_scalar_iff hs, accepts_integer_iff h hint]
    exact ⟨Iff.rfl, rfl⟩
  · obtain ⟨q, t, hq, hseeks, hselects⟩ := exists_query_member (w := toString)
      (v := fun k => .integer (Int64.ofInt k)) hfield fun k hk => spells_toString (h k hk)
    refine ⟨q, hq, fun m e he => ?_⟩
    obtain ⟨s, hs, hint⟩ := exists_of_read?_integerText hplain he
    rw [hselects e, hseeks.holds_scalar_iff hs]
    constructor
    · rintro ⟨k, hk, hsk⟩
      exact (accepts_integer_iff (h k hk) hint).mp hsk ▸ hk
    · intro hm
      exact ⟨m, hm, (accepts_integer_iff (h m hm) hint).mpr rfl⟩

/-- The first integer that is too large, and the smallest that fits beside its neighbour, which is
read as a floating point number. -/
theorem integers_meet_neighbours : IsIdentifier "f" ∧
    (∃ digits, readCondition? ("f" ++ " == " ++ toString (2 ^ 63 : Int)) =
      .error (.invalidNumber digits)) ∧
    ∃ q q' e e', readCondition? ("f" ++ " == " ++ toString (-2 ^ 63 : Int)) = .ok q ∧
      readCondition? ("f" ++ " != " ++ toString (-2 ^ 63 : Int)) = .ok q' ∧
      Event.read? (integerText "f" (-2 ^ 63)) = .ok e ∧
      Event.read? (integerText "f" (-2 ^ 63 - 1)) = .ok e' ∧
      q.selects e = true ∧ q.selects e' = false ∧ q'.selects e' = true := by
  have hfield : IsIdentifier "f" := ⟨Or.inl (by decide), by decide +kernel⟩
  have hlarge : ¬ FitsInt64 (2 ^ 63) := fun h => absurd h.2 (by decide)
  have hsmallest : FitsInt64 (-2 ^ 63) := ⟨by decide, by decide⟩
  obtain ⟨hinvalid, hcompare, -, hread⟩ := integers_meet hfield
  obtain ⟨q, q', hq, hq', hselects⟩ := hcompare (-2 ^ 63) hsmallest
  obtain ⟨e, he⟩ := hread (-2 ^ 63) (by decide)
  obtain ⟨e', he'⟩ := hread (-2 ^ 63 - 1) (by decide)
  have hdiffers : q.selects e' = false := by
    rw [Bool.eq_false_iff, ne_eq, (hselects _ e' he').1]
    decide
  refine ⟨hfield, (hinvalid (2 ^ 63)).mpr hlarge, q, q', e, e', hq, hq', he, he', ?_, hdiffers, ?_⟩
  · exact (hselects _ e he).1.mpr rfl
  · rw [(hselects _ e' he').2, hdiffers]
    rfl

end Vigil.Query
