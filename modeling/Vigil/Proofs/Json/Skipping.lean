import Vigil.Proofs.Json.Endings

/-! # Two ways through a JSON text

A value is read, or passed over where its content does not matter.

* `agree_value?`: what is read does not depend on the fuel;
* `agree_skip?`: passing over a value leaves what reading it leaves. -/

namespace Vigil.Json

/-! ### Reading with different fuel -/

/-- What the readers keep to with some fuel: with any other fuel they give the same, if they give
something. -/
structure AgreeUpTo (fuel : Nat) : Prop where
  value : ∀ fuel' depth cs, Agree Eq (value? fuel depth cs) (value? fuel' depth cs)
  items : ∀ fuel' depth first cs, Agree Eq (items? fuel depth first cs) (items? fuel' depth first cs)
  members : ∀ fuel' depth first cs,
    Agree Eq (members? fuel depth first cs) (members? fuel' depth first cs)

theorem AgreeUpTo.value_succ {fuel : Nat} (h : AgreeUpTo fuel) (fuel' depth : Nat)
    (cs : List Char) : Agree Eq (value? (fuel + 1) depth cs) (value? fuel' depth cs) := by
  rcases fuel' with _ | fuel'
  · exact Agree.error_right
  · simp only [value?]
    split
    case h_7 rest _ =>
      split_ifs
      · exact Agree.error_left
      · exact (h.items fuel' (depth + 1) true rest).map fun a b hab => by rw [hab]
    case h_8 rest _ =>
      split_ifs
      · exact Agree.error_left
      · exact (h.members fuel' (depth + 1) true rest).map fun a b hab => by rw [hab]
    all_goals exact Agree.refl _

theorem AgreeUpTo.items_succ {fuel : Nat} (h : AgreeUpTo fuel) (fuel' depth : Nat) (first : Bool)
    (cs : List Char) :
    Agree Eq (items? (fuel + 1) depth first cs) (items? fuel' depth first cs) := by
  rcases fuel' with _ | fuel'
  · exact Agree.error_right
  · simp only [items?]
    refine (Agree.refl _).bind ?_
    rintro ⟨more, rest⟩ _ rfl
    rcases more with _ | _
    · exact Agree.refl _
    · refine (h.value fuel' depth rest).bind ?_
      rintro ⟨v, rest⟩ _ rfl
      refine (h.items fuel' depth false rest).bind ?_
      rintro ⟨vs, rest⟩ _ rfl
      exact Agree.refl _

theorem AgreeUpTo.members_succ {fuel : Nat} (h : AgreeUpTo fuel) (fuel' depth : Nat) (first : Bool)
    (cs : List Char) :
    Agree Eq (members? (fuel + 1) depth first cs) (members? fuel' depth first cs) := by
  rcases fuel' with _ | fuel'
  · exact Agree.error_right
  · simp only [members?]
    refine (Agree.refl _).bind ?_
    rintro ⟨more, rest⟩ _ rfl
    rcases more with _ | _
    · exact Agree.refl _
    · refine (Agree.refl _).bind ?_
      rintro ⟨name, rest⟩ _ rfl
      refine (Agree.refl _).bind ?_
      rintro rest _ rfl
      refine (h.value fuel' depth rest).bind ?_
      rintro ⟨v, rest⟩ _ rfl
      refine (h.members fuel' depth false rest).bind ?_
      rintro ⟨vs, rest⟩ _ rfl
      exact Agree.refl _

theorem agreeUpTo (fuel : Nat) : AgreeUpTo fuel := by
  induction fuel with
  | zero =>
    exact ⟨fun _ _ _ => Agree.error_left, fun _ _ _ _ => Agree.error_left,
      fun _ _ _ _ => Agree.error_left⟩
  | succ fuel ih => exact ⟨ih.value_succ, ih.items_succ, ih.members_succ⟩

/-- **Fuel.** A value that is read is the same with any other fuel, if one is read. -/
theorem agree_value? (fuel fuel' depth : Nat) (cs : List Char) :
    Agree Eq (value? fuel depth cs) (value? fuel' depth cs) :=
  (agreeUpTo fuel).value fuel' depth cs

/-! ### Passing over -/

/-- Whether a reader leaves some text. -/
def Leaves {α : Type} (read : Read α) (rest : List Char) : Prop := read.2 = rest

theorem agree_skipText (fuel : Nat) (cs : List Char) :
    Agree Leaves (text? cs) (skipText fuel cs) := by
  rintro ⟨s, rest⟩ rest' hread hskip
  exact (textFrom_rest hread).trans (skipText_rest hskip).symm

theorem agree_skipNumber (negative : Bool) (cs : List Char) :
    Agree Leaves (number? negative cs) (skipNumber cs) := by
  rintro ⟨x, rest⟩ rest' hread hskip
  exact (number?_rest hread).trans (skipNumber_rest hskip).symm

theorem agree_word? {α : Type} (word cs : List Char) (v : α) :
    Agree Leaves ((word? word cs).map fun rest => (v, rest)) (word? word cs) :=
  Agree.map_left (Agree.refl _)

/-- What passing over values keeps to beside readers with some fuel: it leaves what they leave. -/
structure SkipsUpTo (fuel : Nat) : Prop where
  value : ∀ fuel' depth cs, Agree Leaves (value? fuel depth cs) (skip? fuel' cs)
  items : ∀ fuel' depth first cs,
    Agree Leaves (items? fuel depth first cs) (skipItems fuel' first cs)
  members : ∀ fuel' depth first cs,
    Agree Leaves (members? fuel depth first cs) (skipMembers fuel' first cs)

theorem SkipsUpTo.value_succ {fuel : Nat} (h : SkipsUpTo fuel) (fuel' depth : Nat)
    (cs : List Char) : Agree Leaves (value? (fuel + 1) depth cs) (skip? fuel' cs) := by
  rcases fuel' with _ | fuel'
  · exact Agree.error_right
  · simp only [value?, skip?]
    split
    case h_1 => exact Agree.error_left
    case h_2 | h_3 | h_4 => exact agree_word? _ _ _
    case h_5 rest _ => exact Agree.map_left (agree_skipNumber true rest)
    case h_6 rest _ => exact Agree.map_left (agree_skipText _ rest)
    case h_7 rest _ =>
      split_ifs
      · exact Agree.error_left
      · exact Agree.map_left (h.items fuel' (depth + 1) true rest)
    case h_8 rest _ =>
      split_ifs
      · exact Agree.error_left
      · exact Agree.map_left (h.members fuel' (depth + 1) true rest)
    case h_9 c rest _ _ _ _ _ _ _ _ =>
      split_ifs
      · exact Agree.map_left (agree_skipNumber false (c :: rest))
      · exact Agree.error_left

theorem SkipsUpTo.items_succ {fuel : Nat} (h : SkipsUpTo fuel) (fuel' depth : Nat) (first : Bool)
    (cs : List Char) :
    Agree Leaves (items? (fuel + 1) depth first cs) (skipItems fuel' first cs) := by
  rcases fuel' with _ | fuel'
  · exact Agree.error_right
  · simp only [items?, skipItems]
    refine (Agree.refl _).bind ?_
    rintro ⟨more, rest⟩ _ rfl
    rcases more with _ | _
    · exact Agree.ok rfl
    · refine (h.value fuel' depth rest).bind ?_
      rintro ⟨v, rest⟩ _ rfl
      exact (h.items fuel' depth false rest).bind_left fun _ _ hrest => Agree.ok hrest

theorem SkipsUpTo.members_succ {fuel : Nat} (h : SkipsUpTo fuel) (fuel' depth : Nat)
    (first : Bool) (cs : List Char) :
    Agree Leaves (members? (fuel + 1) depth first cs) (skipMembers fuel' first cs) := by
  rcases fuel' with _ | fuel'
  · exact Agree.error_right
  · simp only [members?, skipMembers]
    refine (Agree.refl _).bind ?_
    rintro ⟨more, rest⟩ _ rfl
    rcases more with _ | _
    · exact Agree.ok rfl
    · refine (agree_skipText _ rest).bind ?_
      rintro ⟨name, rest⟩ _ rfl
      refine (Agree.refl _).bind ?_
      rintro rest _ rfl
      refine (h.value fuel' depth rest).bind ?_
      rintro ⟨v, rest⟩ _ rfl
      exact (h.members fuel' depth false rest).bind_left fun _ _ hrest => Agree.ok hrest

theorem skipsUpTo (fuel : Nat) : SkipsUpTo fuel := by
  induction fuel with
  | zero =>
    exact ⟨fun _ _ _ => Agree.error_left, fun _ _ _ _ => Agree.error_left,
      fun _ _ _ _ => Agree.error_left⟩
  | succ fuel ih => exact ⟨ih.value_succ, ih.items_succ, ih.members_succ⟩

/-- **Passing over a value** leaves what reading it leaves, if both come to an end. -/
theorem agree_skip? (fuel fuel' depth : Nat) (cs : List Char) :
    Agree Leaves (value? fuel depth cs) (skip? fuel' cs) :=
  (skipsUpTo fuel).value fuel' depth cs

end Vigil.Json
