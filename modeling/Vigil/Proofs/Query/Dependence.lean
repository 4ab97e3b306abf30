import Mathlib.Data.Option.Defs
import Vigil.Query.Basic

/-! # What a query reads

A query looks at the class of an event and at the fields that it lists, and at nothing else.

* `Test.satisfiedBy_eq_any`: a value satisfies a test through the scalars in its sequences;
* `Test.holds_iff`: a test that is not negated asks for a scalar in its field;
* `Condition.holds_congr`, `Query.selects_congr`: events that agree on these are told apart neither
  by the condition nor by the query. -/

namespace Vigil

variable {e₁ e₂ : Event}

/-- The scalars that a test of a field looks at. -/
def Event.scalarsAt (e : Event) (field : String) : List Scalar :=
  ((e.find? field).map Value.scalars).getD []

theorem Event.scalarsAt_of_find? {e : Event} {field : String} {v : Value}
    (h : e.find? field = some v) : e.scalarsAt field = v.scalars := by
  rw [scalarsAt, h]
  rfl

theorem Event.scalarsAt_of_missing {e : Event} {field : String} (h : e.find? field = none) :
    e.scalarsAt field = [] := by
  rw [scalarsAt, h]
  rfl

namespace Query

mutual

/-- **Flattening.** A value satisfies a test if a scalar does that is reached through sequences only. -/
theorem Test.satisfiedBy_eq_any (t : Test) : ∀ v : Value,
    t.satisfiedBy v = v.scalars.any fun s => t.operands.any fun o => o.satisfiedBy s
  | .scalar _ => by rw [Test.satisfiedBy, Value.scalars, List.any_cons, List.any_nil, Bool.or_false]
  | .sequence items => by rw [Test.satisfiedBy, Value.scalars, t.satisfiedByItem_eq_any items]
  | .record _ => rfl

@[inherit_doc Test.satisfiedBy_eq_any]
theorem Test.satisfiedByItem_eq_any (t : Test) : ∀ vs : List Value,
    t.satisfiedByItem vs =
      (Value.scalarsOf vs).any fun s => t.operands.any fun o => o.satisfiedBy s
  | [] => rfl
  | v :: vs => by
    rw [Test.satisfiedByItem, Value.scalarsOf, List.any_append, t.satisfiedBy_eq_any v,
      t.satisfiedByItem_eq_any vs]

end

/-- A value satisfies tests with the same operands alike. -/
theorem Test.satisfiedBy_congr {t t' : Test} (h : t.operands = t'.operands) (v : Value) :
    t.satisfiedBy v = t'.satisfiedBy v := by
  rw [t.satisfiedBy_eq_any, t'.satisfiedBy_eq_any, h]

/-- A test that is not negated asks for a scalar that satisfies one of its operands. -/
theorem Test.holds_iff {t : Test} {e : Event} (ht : t.form.isNegated = false) :
    t.holds e = true ↔ ∃ s ∈ e.scalarsAt t.field, ∃ o ∈ t.operands, o.satisfiedBy s = true := by
  unfold Test.holds
  rcases hfind : e.find? t.field with _ | v
  · simp [Event.scalarsAt_of_missing hfind]
  · simp [Event.scalarsAt_of_find? hfind, ht, Test.satisfiedBy_eq_any]

theorem Test.holds_congr {t : Test} (h : e₁.find? t.field = e₂.find? t.field) :
    t.holds e₁ = t.holds e₂ := by
  rw [Test.holds, Test.holds, h]

/-- Two tests of one field hold alike, also in two events, if the values that they find there
satisfy them alike. -/
theorem Test.holds_eq_of_find?_rel {t t' : Test} {R : Value → Value → Prop}
    (hfield : t'.field = t.field) (hform : t.form.isNegated = t'.form.isNegated)
    (he : Option.Rel R (e₁.find? t.field) (e₂.find? t.field))
    (h : ∀ v w, R v w → t.satisfiedBy v = t'.satisfiedBy w) : t.holds e₁ = t'.holds e₂ := by
  rw [Test.holds, Test.holds, hfield, hform]
  generalize e₁.find? t.field = x, e₂.find? t.field = y at he
  cases he with
  | none => rfl
  | some hvw => exact congrArg (· != t'.form.isNegated) (h _ _ hvw)

namespace Condition

theorem mem_fields {c : Condition} {field : String} :
    field ∈ c.fields ↔ ∃ t ∈ c.tests, t.field = field := by
  rw [fields, List.mem_eraseDups, List.mem_map]

/-- Events that the tests do not tell apart satisfy the same condition. -/
theorem holds_eq_of_tests {c : Condition} (h : ∀ t ∈ c.tests, t.holds e₁ = t.holds e₂) :
    c.holds e₁ = c.holds e₂ := by
  induction c with
  | constant b => rfl
  | test t => exact h t (List.mem_singleton_self t)
  | negation c ih => rw [holds, holds, ih h]
  | conjunction c d ihc ihd =>
    have hc := ihc fun t ht => h t (List.mem_append_left _ ht)
    have hd := ihd fun t ht => h t (List.mem_append_right _ ht)
    rw [holds, holds, hc, hd]
  | disjunction c d ihc ihd =>
    have hc := ihc fun t ht => h t (List.mem_append_left _ ht)
    have hd := ihd fun t ht => h t (List.mem_append_right _ ht)
    rw [holds, holds, hc, hd]

/-- Events that agree on the fields of the tests satisfy the same condition. -/
theorem holds_congr_of_tests {c : Condition}
    (h : ∀ t ∈ c.tests, e₁.find? t.field = e₂.find? t.field) : c.holds e₁ = c.holds e₂ :=
  holds_eq_of_tests fun t ht => Test.holds_congr (h t ht)

/-- **What a condition reads.** Events that agree on its fields satisfy the same condition. -/
theorem holds_congr {c : Condition} (h : ∀ field ∈ c.fields, e₁.find? field = e₂.find? field) :
    c.holds e₁ = c.holds e₂ :=
  holds_congr_of_tests fun t ht => h t.field (mem_fields.mpr ⟨t, ht, rfl⟩)

end Condition

theorem appliesTo_congr {q : Query} (h : e₁.class? = e₂.class?) :
    q.appliesTo e₁ = q.appliesTo e₂ := by
  rw [appliesTo, appliesTo, h]

/-- **What a query reads.** Events of one class that agree on its fields are selected alike. -/
theorem selects_congr {q : Query} (hclass : e₁.class? = e₂.class?)
    (h : ∀ field ∈ q.fields, e₁.find? field = e₂.find? field) : q.selects e₁ = q.selects e₂ := by
  rw [selects, selects, appliesTo_congr hclass, Condition.holds_congr h]

end Query

end Vigil
