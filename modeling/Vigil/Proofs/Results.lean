import Mathlib.Data.List.Forall2
import Mathlib.Data.Option.Defs

/-! # Results

When a computation that may fail gives a value, and which error it fails with.

* `bind_eq_ok`, `map_eq_ok`, `mapM_eq_ok`, `mapM_eq_some`: each of its steps gives one;
* `failure?_bind`, `failure?_mapM`: the error is that of the first step that fails;
* `Yields.bind`: what holds of the value, if there is one, by what each step makes of it;
* `rel_map`, `rel_mapM`, `forall₂_filterMap`: steps that give related values or nothing;
* `Agree.bind`: where the steps of two computations agree, the computations do. -/

namespace Vigil

variable {ε α β : Type}

theorem bind_eq_ok {x : Except ε α} {f : α → Except ε β} {b : β} :
    x >>= f = .ok b ↔ ∃ a, x = .ok a ∧ f a = .ok b := by
  rcases x with e | a
  · constructor
    · intro h
      cases h
    · rintro ⟨a, h, -⟩
      cases h
  · constructor
    · intro h
      exact ⟨a, rfl, h⟩
    · rintro ⟨_, ⟨⟩, h⟩
      exact h

theorem map_eq_ok {x : Except ε α} {f : α → β} {b : β} :
    x.map f = .ok b ↔ ∃ a, x = .ok a ∧ f a = b := by
  rcases x with e | a <;> simp [Except.map]

theorem mapError_eq_ok {ε' : Type} {x : Except ε α} {f : ε → ε'} {a : α} :
    x.mapError f = .ok a ↔ x = .ok a := by
  rcases x with e | b <;> simp [Except.mapError]

theorem mapError_eq_error {ε' : Type} {x : Except ε α} {f : ε → ε'} {e' : ε'} :
    x.mapError f = .error e' ↔ ∃ e, x = .error e ∧ f e = e' := by
  rcases x with e | b <;> simp [Except.mapError]

theorem mapM_eq_ok {f : α → Except ε β} {as : List α} {bs : List β} :
    as.mapM f = .ok bs ↔ List.Forall₂ (fun a b => f a = .ok b) as bs := by
  induction as generalizing bs with
  | nil =>
    rw [List.mapM_nil, List.forall₂_nil_left_iff]
    constructor
    · rintro ⟨⟩
      rfl
    · rintro rfl
      rfl
  | cons a as ih =>
    rw [List.mapM_cons, List.forall₂_cons_left_iff, bind_eq_ok]
    constructor
    · rintro ⟨b, hb, h⟩
      obtain ⟨bs', hbs, heq⟩ := bind_eq_ok.mp h
      cases heq
      exact ⟨b, bs', hb, ih.mp hbs, rfl⟩
    · rintro ⟨b, bs', hb, hbs, rfl⟩
      exact ⟨b, hb, bind_eq_ok.mpr ⟨bs', ih.mpr hbs, rfl⟩⟩

theorem mapM_eq_some {f : α → Option β} {as : List α} {bs : List β} :
    as.mapM f = some bs ↔ List.Forall₂ (fun a b => f a = some b) as bs := by
  induction as generalizing bs with
  | nil =>
    rw [List.mapM_nil, List.forall₂_nil_left_iff]
    exact Option.some_inj.trans eq_comm
  | cons a as ih =>
    simp only [List.mapM_cons, List.forall₂_cons_left_iff, Option.bind_eq_bind,
      Option.bind_eq_some_iff]
    constructor
    · rintro ⟨b, hb, bs', hbs, heq⟩
      cases heq
      exact ⟨b, bs', hb, ih.mp hbs, rfl⟩
    · rintro ⟨b, bs', hb, hbs, rfl⟩
      exact ⟨b, hb, bs', ih.mpr hbs, rfl⟩

theorem toOption_eq_some {x : Except ε α} {a : α} : x.toOption = some a ↔ x = .ok a := by
  rcases x with e | b <;> simp [Except.toOption]

theorem exists_of_mem_mapM {f : α → Option β} {as : List α} {bs : List β} {b : β}
    (h : as.mapM f = some bs) (hb : b ∈ bs) : ∃ a ∈ as, f a = some b := by
  have hall := mapM_eq_some.mp h
  clear h
  induction hall with
  | nil => cases hb
  | @cons a b' as bs hf _ ih =>
    rcases List.mem_cons.mp hb with rfl | hb
    · exact ⟨a, List.mem_cons_self, hf⟩
    · obtain ⟨a', ha', hf'⟩ := ih hb
      exact ⟨a', List.mem_cons_of_mem a ha', hf'⟩

theorem isSome_mapM {f : α → Option β} {as : List α} :
    (as.mapM f).isSome = true ↔ ∀ a ∈ as, (f a).isSome = true := by
  induction as with
  | nil => simp
  | cons a as ih =>
    rw [List.mapM_cons, List.forall_mem_cons, ← ih]
    rcases f a with _ | b
    · simp
    · rcases as.mapM f with _ | bs <;> simp

theorem exists_of_isOk {x : Except ε α} (h : x.isOk = true) : ∃ a, x = .ok a := by
  rcases x with e | a
  · cases h
  · exact ⟨a, rfl⟩

/-! ### Errors -/

/-- The error of a computation that fails. -/
def failure? : Except ε α → Option ε
  | .ok _ => none
  | .error e => some e

theorem failure?_eq_some {x : Except ε α} {e : ε} : failure? x = some e ↔ x = .error e := by
  rcases x with e' | a <;> simp [failure?]

theorem failure?_eq_none {x : Except ε α} : failure? x = none ↔ ∃ a, x = .ok a := by
  rcases x with e | a <;> simp [failure?]

/-- Where the error of the second step does not depend on what the first gives. -/
theorem failure?_bind {x : Except ε α} {f : α → Except ε β} {o : Option ε}
    (h : ∀ a, failure? (f a) = o) : failure? (x >>= f) = (failure? x).or o := by
  rcases x with e | a
  · rfl
  · exact h a

@[simp]
theorem failure?_bind_pure (x : Except ε α) (g : α → β) :
    failure? (x >>= fun a => pure (g a)) = failure? x := by
  rw [failure?_bind (o := none) fun _ => rfl, Option.or_none]

theorem failure?_mapM (f : α → Except ε β) (as : List α) :
    failure? (as.mapM f) = as.findSome? fun a => failure? (f a) := by
  induction as with
  | nil => rfl
  | cons a as ih =>
    have htail (b : β) : failure? (as.mapM f >>= fun bs => pure (b :: bs)) =
        as.findSome? fun a => failure? (f a) := by
      rw [failure?_bind_pure, ih]
    rw [List.mapM_cons, failure?_bind htail, List.findSome?_cons]
    cases failure? (f a) <;> rfl

/-! ### Values that may be missing -/

section Yields

variable {P : α → Prop} {Q : β → Prop} {x : Option α} {f : α → Option β}

/-- Whether a value has a property, if there is one. -/
def Yields (P : α → Prop) (x : Option α) : Prop := ∀ a, x = some a → P a

theorem yields_some {a : α} (h : P a) : Yields P (some a) := by
  rintro _ ⟨⟩
  exact h

theorem yields_none : Yields P none := by
  rintro _ ⟨⟩

theorem Yields.bind (h : Yields P x) (hf : ∀ a, P a → Yields Q (f a)) : Yields Q (x >>= f) := by
  intro b hb
  obtain ⟨a, ha, hb⟩ := Option.bind_eq_some_iff.mp hb
  exact hf a (h a ha) b hb

/-- Where it does not matter what the first step gives. -/
theorem yields_bind (hf : ∀ a, Yields Q (f a)) : Yields Q (x >>= f) := by
  intro b hb
  obtain ⟨a, -, hb⟩ := Option.bind_eq_some_iff.mp hb
  exact hf a b hb

end Yields

section Rel

variable {γ δ : Type} {R : α → β → Prop} {S : β → γ → Prop} {x : Option α} {y : Option β}
  {z : Option γ}

theorem rel_imp {T : α → β → Prop} (h : Option.Rel R x y)
    (himp : ∀ a b, x = some a → y = some b → R a b → T a b) : Option.Rel T x y := by
  cases h with
  | none => exact .none
  | some hab => exact .some (himp _ _ rfl rfl hab)

theorem rel_swap {T : β → α → Prop} (h : Option.Rel R x y)
    (himp : ∀ a b, x = some a → y = some b → R a b → T b a) : Option.Rel T y x := by
  cases h with
  | none => exact .none
  | some hab => exact .some (himp _ _ rfl rfl hab)

theorem rel_trans {T : α → γ → Prop} (h : Option.Rel R x y) (h' : Option.Rel S y z)
    (himp : ∀ a b c, x = some a → y = some b → z = some c → R a b → S b c → T a c) :
    Option.Rel T x z := by
  cases h with
  | none =>
    cases h'
    exact .none
  | some hab =>
    cases h' with
    | some hbc => exact .some (himp _ _ _ rfl rfl rfl hab hbc)

theorem rel_or {x' : Option α} {y' : Option β} (h : Option.Rel R x y) (h' : Option.Rel R x' y') :
    Option.Rel R (x.or x') (y.or y') := by
  cases h with
  | none => exact h'
  | some hab => exact .some hab

theorem rel_map {T : γ → δ → Prop} {f : α → γ} {g : β → δ} (h : Option.Rel R x y)
    (hfg : ∀ a b, R a b → T (f a) (g b)) : Option.Rel T (x.map f) (y.map g) := by
  cases h with
  | none => exact .none
  | some hab => exact .some (hfg _ _ hab)

theorem rel_mapM {T : γ → δ → Prop} {f : α → Option γ} {g : β → Option δ} {as : List α}
    {bs : List β} (h : List.Forall₂ (fun a b => Option.Rel T (f a) (g b)) as bs) :
    Option.Rel (List.Forall₂ T) (as.mapM f) (bs.mapM g) := by
  induction h with
  | nil => exact .some .nil
  | @cons a b as bs hab _ ih =>
    rw [List.mapM_cons, List.mapM_cons]
    generalize f a = c, g b = d at hab
    generalize as.mapM f = cs, bs.mapM g = ds at ih
    cases hab with
    | none => exact .none
    | some hcd =>
      cases ih with
      | none => exact .none
      | some hcds => exact .some (.cons hcd hcds)

theorem forall₂_filterMap {T : β → γ → Prop} {f : α → Option β} {g : α → Option γ} {as : List α}
    (h : ∀ a ∈ as, Option.Rel T (f a) (g a)) :
    List.Forall₂ T (as.filterMap f) (as.filterMap g) := by
  induction as with
  | nil => exact .nil
  | cons a as ih =>
    obtain ⟨ha, has⟩ := List.forall_mem_cons.mp h
    rw [List.filterMap_cons, List.filterMap_cons]
    generalize f a = x, g a = y at ha
    cases ha with
    | none => exact ih has
    | some hbc => exact .cons hbc (ih has)

theorem isSome_eq_of_rel (h : Option.Rel R x y) : x.isSome = y.isSome := by
  cases h <;> rfl

/-- Two values that are there or missing together are related if they are wherever they are
there. -/
theorem rel_of_isSome_eq (h : x.isSome = y.isSome)
    (hxy : ∀ a b, x = some a → y = some b → R a b) : Option.Rel R x y := by
  rcases x with _ | a <;> rcases y with _ | b
  · exact .none
  · cases h
  · cases h
  · exact .some (hxy a b rfl rfl)

end Rel

/-! ### Two computations -/

/-- Whether what two computations give is related, where both give something. -/
def Agree {α' : Type} (R : α → α' → Prop) (x : Except ε α) (y : Except ε α') : Prop :=
  ∀ a b, x = .ok a → y = .ok b → R a b

namespace Agree

variable {α' β' : Type} {R : α → α' → Prop} {S : β → β' → Prop} {x : Except ε α} {y : Except ε α'}

theorem refl (x : Except ε α) : Agree Eq x x := by
  intro a b ha hb
  exact Except.ok.inj (ha.symm.trans hb)

theorem error_left {e : ε} : Agree R (.error e) y := by
  intro a b ha
  cases ha

theorem error_right {e : ε} : Agree R x (.error e) := by
  intro a b _ hb
  cases hb

theorem ok {a : α} {b : α'} (h : R a b) : Agree R (.ok a : Except ε α) (.ok b) := by
  intro a' b' ha hb
  cases ha
  cases hb
  exact h

theorem bind {f : α → Except ε β} {g : α' → Except ε β'} (h : Agree R x y)
    (hfg : ∀ a b, R a b → Agree S (f a) (g b)) : Agree S (x >>= f) (y >>= g) := by
  intro c d hc hd
  obtain ⟨a, ha, hc⟩ := bind_eq_ok.mp hc
  obtain ⟨b, hb, hd⟩ := bind_eq_ok.mp hd
  exact hfg a b (h a b ha hb) c d hc hd

theorem map {f : α → β} {g : α' → β'} (h : Agree R x y) (hfg : ∀ a b, R a b → S (f a) (g b)) :
    Agree S (x.map f) (y.map g) := by
  intro c d hc hd
  obtain ⟨a, ha, rfl⟩ := map_eq_ok.mp hc
  obtain ⟨b, hb, rfl⟩ := map_eq_ok.mp hd
  exact hfg a b (h a b ha hb)

theorem map_left {f : α → β} {R : β → α' → Prop} (h : Agree (fun a b => R (f a) b) x y) :
    Agree R (x.map f) y := by
  intro c d hc hd
  obtain ⟨a, ha, rfl⟩ := map_eq_ok.mp hc
  exact h a d ha hd

theorem bind_left {f : α → Except ε β} {R : β → α' → Prop} {S : α → α' → Prop} (h : Agree S x y)
    (hf : ∀ a b, S a b → Agree R (f a) (.ok b : Except ε α')) : Agree R (x >>= f) y := by
  intro c d hc hd
  obtain ⟨a, ha, hc⟩ := bind_eq_ok.mp hc
  exact hf a d (h a d ha hd) c d hc rfl

end Agree

end Vigil
