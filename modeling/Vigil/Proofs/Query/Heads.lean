import Vigil.Proofs.Query.Blanks
import Vigil.Proofs.Query.Identifiers

/-! # Heads

A query with a head is its condition, asked of the events of one class. The head is a name and the
word `where`, and the blank after it keeps the tokens of the condition apart from it.

* `unplaced_condition?`: the errors of the parser say nothing of places in the text, so that a head
  does not change them;
* `tokens?_headed`: the tokens of a text with a head;
* `appliesTo_of_head`: the events that a head asks for;
* `read?_headed`: what a head adds to a condition.
-/

namespace Vigil.Query

open Vigil.Text

variable {α β : Type} {ts : List Token} {t : String} {q : Query}

/-! ### Errors of the parser -/

/-- Whether an error, if there is one, says nothing of a place in the text. -/
def Unplaced (x : Except QueryError α) : Prop := ∀ e, x = .error e → ∀ n, e.shift n = e

theorem unplaced_ok (a : α) : Unplaced (.ok a) := by
  intro e he
  cases he

theorem unplaced_error {e : QueryError} (h : ∀ n, e.shift n = e) :
    Unplaced (.error e : Except QueryError α) := by
  intro e' he
  cases he
  exact h

theorem Unplaced.bind {x : Except QueryError α} {f : α → Except QueryError β} (hx : Unplaced x)
    (hf : ∀ a, Unplaced (f a)) : Unplaced (x >>= f) := by
  rcases x with e | a
  · exact unplaced_error (hx e rfl)
  · exact hf a

theorem Unplaced.map {x : Except QueryError α} {f : α → β} (hx : Unplaced x) :
    Unplaced (x.map f) := by
  rcases x with e | a
  · exact unplaced_error (hx e rfl)
  · exact unplaced_ok _

theorem unplaced_literal? (operator : Token) (ts : List Token) : Unplaced (literal? operator ts) := by
  unfold literal?
  split
  · exact unplaced_error fun n => rfl
  · exact unplaced_ok _
  · exact unplaced_error fun n => rfl

theorem unplaced_literals? (operator : Token) (ts : List Token) :
    Unplaced (literals? operator ts) := by
  fun_induction literals? operator ts with
  | case1 rest => exact unplaced_ok _
  | case2 value rest ih => exact ih.map
  | case3 rest => exact (unplaced_literal? operator rest).map
  | case4 => exact unplaced_error fun n => rfl

theorem unplaced_arguments? (function : String) (ts : List Token) :
    Unplaced (arguments? function ts) := by
  fun_induction arguments? function ts with
  | case1 rest => exact unplaced_ok _
  | case2 s rest ih => exact ih.map
  | case3 => exact unplaced_error fun n => rfl
  | case4 => exact unplaced_error fun n => rfl

theorem unplaced_form? (name : String) (ts : List Token) : Unplaced (form? name ts) := by
  unfold form?
  split
  · exact (unplaced_literal? _ _).map
  · exact (unplaced_literal? _ _).bind fun _ =>
      (unplaced_literals? _ _).bind fun _ => unplaced_ok _
  · exact unplaced_error fun n => rfl
  · split
    · exact unplaced_error fun n => rfl
    · refine (unplaced_arguments? _ _).bind fun (arguments, rest) => ?_
      simp only
      split_ifs
      · exact unplaced_error fun n => rfl
      · exact unplaced_ok _
    · exact unplaced_error fun n => rfl
  · split
    · split_ifs
      · exact unplaced_error fun n => rfl
      · exact unplaced_ok _
    · exact unplaced_error fun n => rfl

theorem unplaced_test? (name : String) (ts : List Token) : Unplaced (test? name ts) := by
  refine (unplaced_form? name ts).bind fun ((field, form), rest) => ?_
  refine Unplaced.bind ?_ fun _ => unplaced_ok _
  unfold Test.ofForm?
  split
  · exact unplaced_ok _
  · exact unplaced_error fun n => rfl

theorem unplaced_operator? (ts : List Token) : Unplaced (operator? ts) := by
  unfold operator?
  split
  any_goals exact unplaced_ok _
  exact unplaced_error fun n => rfl

/-- What the readers of expressions keep to with some fuel: their errors say nothing of places. -/
structure UnplacedUpTo (fuel : Nat) : Prop where
  expression : ∀ power ts, Unplaced (expression? fuel power ts)
  operand : ∀ ts, Unplaced (operand? fuel ts)
  joined : ∀ power left ts, Unplaced (joined? fuel power left ts)

theorem unplacedUpTo_zero : UnplacedUpTo 0 where
  expression _ _ := unplaced_error fun _ => rfl
  operand _ := unplaced_error fun _ => rfl
  joined _ _ _ := unplaced_error fun _ => rfl

theorem UnplacedUpTo.operand_succ {fuel : Nat} (h : UnplacedUpTo fuel) (ts : List Token) :
    Unplaced (operand? (fuel + 1) ts) := by
  unfold operand?
  split
  case h_1 => exact unplaced_error fun n => rfl
  case h_2 => exact unplaced_error fun n => rfl
  case h_3 => exact unplaced_test? _ _
  case h_4 => exact unplaced_ok _
  case h_5 k _ hk =>
    obtain rfl := Nat.succ.inj hk
    refine (h.expression _ _).bind fun (c, rest) => ?_
    simp only
    split
    · exact unplaced_ok _
    · exact unplaced_error fun n => rfl
  case h_6 k _ hk =>
    obtain rfl := Nat.succ.inj hk
    exact (h.expression _ _).bind fun _ => unplaced_ok _
  case h_7 => exact unplaced_error fun n => rfl

theorem UnplacedUpTo.joined_succ {fuel : Nat} (h : UnplacedUpTo fuel) (power : Nat)
    (left : Condition) (ts : List Token) : Unplaced (joined? (fuel + 1) power left ts) := by
  refine (unplaced_operator? ts).bind fun next => ?_
  rcases next with _ | ⟨operator, rest⟩
  · exact unplaced_ok _
  · simp only
    split_ifs
    · exact unplaced_ok _
    · exact (h.expression _ _).bind fun _ => h.joined _ _ _

theorem unplacedUpTo (fuel : Nat) : UnplacedUpTo fuel := by
  induction fuel with
  | zero => exact unplacedUpTo_zero
  | succ fuel ih =>
    exact ⟨fun power ts => (ih.operand ts).bind fun _ => ih.joined _ _ _, ih.operand_succ,
      ih.joined_succ⟩

/-- **Errors of the parser** say nothing of places in the text. -/
theorem unplaced_condition? (ts : List Token) : Unplaced (condition? ts) := by
  refine ((unplacedUpTo _).expression 0 ts).bind fun (c, rest) => ?_
  simp only
  split
  · exact unplaced_ok _
  · exact unplaced_error fun n => rfl

/-! ### Tokens -/

/-- What stands before the condition of a query. -/
def headText (t : String) : String := t ++ " where "

theorem tokens?_head (h : IsIdentifier t) :
    tokens? (t ++ " where").toList = .ok [.identifier t, .head] := by
  have hwhere : IsWord "where".toList := Or.inl (by decide)
  have hspells : Spells (t.toList ++ " where".toList) ([.identifier t] ++ [.head]) :=
    (spells_identifier h).append (d := ' ') (by decide) (spells_word hwhere).blank
  rw [String.toList_append]
  exact tokens?_of_spells hspells

/-- **The tokens after a head** are those of the condition by itself. -/
theorem tokens?_headed (h : IsIdentifier t) (text : String) :
    tokens? (headText t ++ text).toList = shifted (headText t).utf8ByteSize
      (fun ts => .identifier t :: .head :: ts) (tokens? text.toList) := by
  have hblank : ∀ c ∈ [' '], isBlank c = true := List.forall_mem_singleton.mpr (by decide)
  have happend : tokens? ((t ++ " where").toList ++ [' '] ++ text.toList) = _ :=
    tokens?_append_blanks (tokens?_head h) (by decide) hblank
  have hhead : (t ++ " where").toList ++ [' '] = (headText t).toList := by
    simp [headText]
  rwa [hhead, ← String.toList_append, String.ofList_toList] at happend

/-! ### Events -/

/-- **The events that a head asks for**: all of them, or those of its class. -/
theorem appliesTo_of_head (h : q.head = some t) (e : Event) : q.appliesTo e = true ↔
    equalIgnoringAsciiCase t "any" = true ∨
      ∃ name, e.class? = some name ∧ equalIgnoringAsciiCase name t = true := by
  by_cases hany : equalIgnoringAsciiCase t "any" = true
  · have hclass : q.class? = none := by simp [class?, h, anyClass, Option.filter, hany]
    rw [appliesTo, hclass]
    exact ⟨fun _ => Or.inl hany, fun _ => rfl⟩
  · have hclass : q.class? = some t := by simp [class?, h, anyClass, Option.filter, hany]
    rw [appliesTo, hclass]
    rcases e.class? with _ | name
    · simp [hany]
    · simp [hany]

/-! ### Queries -/

variable {text : String}

theorem read?_of_tokens (h : tokens? text.toList = .ok (.identifier t :: .head :: ts))
    (hdot : '.' ∉ t.toList) : read? text =
      (condition? ts).map fun c => ⟨String.ofList (trim text.toList), some t, c⟩ := by
  have hcontains : ¬t.toList.contains '.' = true := by simpa using hdot
  rw [read?, h]
  simp only [bind, Except.bind, if_neg hcontains]
  rcases condition? ts with e | c <;> rfl

theorem readCondition?_of_tokens (h : tokens? text.toList = .ok ts) (hne : ts ≠ []) :
    readCondition? text =
      (condition? ts).map fun c => ⟨String.ofList (trim text.toList), none, c⟩ := by
  obtain ⟨first, ts, rfl⟩ := List.exists_cons_of_ne_nil hne
  rw [readCondition?, h]
  simp only [bind, Except.bind]
  rcases condition? (first :: ts) with e | c <;> rfl

/-- **Heads.** A condition with a head is read as the condition by itself is: as a query with the
same fields, which selects those of its events that are of the class in the head, or of any class if
this is `any`; or else with the same error, which counts the head where it says a place. And no other
texts are read as queries. -/
theorem read?_headed :
    (∀ t text : String, IsIdentifier t → '.' ∉ t.toList → tokens? text.toList ≠ .ok [] →
      match readCondition? text with
      | .error e => read? (headText t ++ text) = .error (e.shift (headText t).utf8ByteSize)
      | .ok q => ∃ q', read? (headText t ++ text) = .ok q' ∧ q'.fields = q.fields ∧
          ∀ e : Event, q'.selects e = true ↔ q.selects e = true ∧
            (equalIgnoringAsciiCase t "any" = true ∨
              ∃ name, e.class? = some name ∧ equalIgnoringAsciiCase name t = true)) ∧
    ∀ (text : String) (q : Query), read? text = .ok q → ∃ t rest,
      tokens? text.toList = .ok (.identifier t :: .head :: rest) ∧ '.' ∉ t.toList ∧
        q.head = some t ∧ condition? rest = .ok q.condition := by
  refine ⟨fun t text ht hdot hne => ?_, fun text q => exists_tokens_of_read?⟩
  have htokens := tokens?_headed ht text
  rcases hts : tokens? text.toList with e | ts
  · -- the lexer stops in the condition, and its offset counts the head
    have hcondition : readCondition? text = .error e := by
      rw [readCondition?, hts]
      rfl
    rw [hts] at htokens
    rw [hcondition]
    simp only
    rw [read?, htokens]
    rfl
  · rw [hts] at htokens
    have hcondition := readCondition?_of_tokens hts fun h => hne (hts.trans (congrArg _ h))
    have hread := read?_of_tokens htokens hdot
    rw [hcondition, hread]
    rcases hc : condition? ts with e | c
    · exact congrArg Except.error (unplaced_condition? ts e hc _).symm
    · simp only [Except.map]
      refine ⟨_, rfl, rfl, fun e => ?_⟩
      rw [selects, Bool.and_eq_true, appliesTo_of_head rfl]
      exact and_comm

/-- A class with a tilde before a text that does not end, and any class before a condition. -/
theorem read?_headed_unterminated :
    read? "file~ where name == \"é" = .error (.unterminatedText 20) ∧
      ∃ q', read? "Any where x == 1" = .ok q' ∧ q'.fields = ["x"] ∧
        ∀ e : Event, q'.selects e = true ↔
          ((readCondition? "x == 1").toOption.any fun q => q.selects e) = true := by
  have hfile : IsIdentifier "file~" :=
    ⟨Or.inr ⟨"file".toList, by decide, by decide⟩, by decide +kernel⟩
  have hany : IsIdentifier "Any" := ⟨Or.inl (by decide), by decide +kernel⟩
  constructor
  · have htokens : tokens? "name == \"é".toList = .error (.unterminatedText 8) := by rfl
    have hne : tokens? "name == \"é".toList ≠ .ok [] := by
      rw [htokens]
      rintro ⟨⟩
    have hcondition : readCondition? "name == \"é" = .error (.unterminatedText 8) := by
      rw [readCondition?, htokens]
      rfl
    have hhead := read?_headed.1 "file~" "name == \"é" hfile (by decide) hne
    rw [hcondition] at hhead
    exact hhead
  · have hfields : (readCondition? "x == 1").toOption.map Query.fields = some ["x"] := by
      decide +kernel
    obtain ⟨q, hq, hx⟩ := Option.map_eq_some_iff.mp hfields
    rw [toOption_eq_some] at hq
    have hne : tokens? "x == 1".toList ≠ .ok [] := by
      intro h
      rw [readCondition?, h] at hq
      cases hq
    have hhead := read?_headed.1 "Any" "x == 1" hany (by decide) hne
    rw [hq] at hhead
    obtain ⟨q', hread, hfields', hselects⟩ := hhead
    refine ⟨q', hread, hfields'.trans hx, fun e => ?_⟩
    have hclass : equalIgnoringAsciiCase "Any" "any" = true := by decide
    rw [hselects, hq]
    simp [hclass, Except.toOption]

end Vigil.Query
