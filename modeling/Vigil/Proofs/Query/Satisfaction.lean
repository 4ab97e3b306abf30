import Mathlib.Data.List.Basic
import Vigil.Proofs.Event.Equality
import Vigil.Proofs.Query.Dependence
import Vigil.Proofs.Query.Trees
import Vigil.Proofs.Results

/-! # What satisfies a test

A test compares the scalars that are reached in its field (`Value.Reaches`) with the literals that
it is written with (`Form.literals`). Whether a literal accepts a scalar depends on the form
(`Form.Accepts`): a text accepts the texts that its pattern matches, and any other literal accepts
itself only.

* `Value.mem_scalars_iff`: the scalars that tests look at are those that are reached;
* `Form.operands?_eq_mapM`: a form has one operand for each of its literals;
* `Test.holds_iff_accepts`: a test that is not negated asks for a scalar that a literal accepts;
* `holds_iff_reaches`: tests of missing fields, of nested values, and for being unequal. -/

namespace Vigil

/-! ### Nested values -/

namespace Value

variable {v : Value} {s : Scalar} {items : List Value}

/-- Whether a scalar is reached in a value, at any depth but through sequences only. -/
inductive Reaches (s : Scalar) : Value → Prop
  | scalar : Reaches s (.scalar s)
  | item {v : Value} {items : List Value} (hv : v ∈ items) (h : Reaches s v) :
    Reaches s (.sequence items)

theorem mem_scalarsOf : s ∈ scalarsOf items ↔ ∃ v ∈ items, s ∈ v.scalars := by
  induction items with
  | nil => simp [scalarsOf]
  | cons v items ih => simp [scalarsOf, ih]

theorem Reaches.mem_scalars (h : v.Reaches s) : s ∈ v.scalars := by
  induction h with
  | scalar => exact List.mem_singleton_self s
  | item hv _ ih => exact mem_scalarsOf.mpr ⟨_, hv, ih⟩

theorem reaches_of_mem_scalars : ∀ {v : Value}, s ∈ v.scalars → v.Reaches s
  | .scalar _, h => by
    obtain rfl := List.mem_singleton.mp h
    exact .scalar
  | .sequence _, h => by
    obtain ⟨w, hw, hs⟩ := mem_scalarsOf.mp h
    exact .item hw (reaches_of_mem_scalars hs)
  | .record _, h => by cases h

/-- The scalars that tests look at are those that are reached through sequences only. -/
theorem mem_scalars_iff : s ∈ v.scalars ↔ v.Reaches s :=
  ⟨reaches_of_mem_scalars, Reaches.mem_scalars⟩

end Value

namespace Query

variable {t : Test} {e : Event} {s : Scalar} {o : Operand}

/-! ### Scalars -/

/-- A literal is equal to the scalar that it denotes only. -/
theorem Literal.scalar_equal_iff (value : Literal) :
    value.scalar.equal s = true ↔ s = value.scalar := by
  have hfloat (f : Decimal.Binary64) : value.scalar ≠ .float f := by
    cases value <;> rintro ⟨⟩
  constructor
  · intro h
    rcases Scalar.eq_of_equal h with hs | ⟨f, -, hf, -⟩
    · exact hs.symm
    · exact absurd hf (hfloat f)
  · rintro rfl
    exact Scalar.equal_self_iff.mpr fun f _ => hfloat f

theorem Operand.satisfiedBy_scalar {r : Scalar} : (Operand.scalar r).satisfiedBy s = r.equal s := by
  unfold satisfiedBy compare
  by_cases h : r.equal s = true
  · simp only [h, if_pos, decide_true]
  · simp only [Bool.eq_false_iff.mpr h, decide_eq_false_iff_not]
    rintro ⟨⟩

/-! ### Literals of a form -/

namespace Form

variable {form : Form} {value : Literal} {operands : List Operand}

/-- The literals that a form is written with. -/
def literals : Form → List Literal
  | .compare _ value => [value]
  | .member _ values => values
  | .call _ arguments => arguments.map .text
  | .option name => [.text name]

/-- The pattern that a text stands for. -/
def pattern? : Form → String → Option Pattern
  | .compare comparison _, s => Pattern.wildcard? s.toList (comparison != .similar)
  | .member cased _, s => some (Pattern.ofText s.toList cased)
  | .call f _, s => f.function.pattern? s f.cased
  | .option _, s => some (Pattern.ofText s.toList false)

/-- Whether a literal accepts a scalar: a text accepts those texts that its pattern matches, and any
other literal accepts itself only. -/
def Accepts (form : Form) : Literal → Scalar → Prop
  | .text s, t => ∃ q u, form.pattern? s = some q ∧ t = .text u ∧ q.isMatch u.toList = true
  | .integer i, t => t = .int i
  | .boolean b, t => t = .boolean b
  | .null, t => t = .null

/-- The operand that a literal stands for. -/
def operand? (form : Form) : Literal → Option Operand
  | .text s => (form.pattern? s).map .pattern
  | value => some (.scalar value.scalar)

/-- **Operands.** A form has one operand for each of its literals. -/
theorem operands?_eq_mapM (form : Form) : form.operands? = form.literals.mapM form.operand? := by
  cases form with
  | compare comparison value =>
    have hoperand : wildcardOperand? (comparison != .similar) value =
        (Form.compare comparison value).operand? value := by
      cases value <;> rfl
    rw [operands?, hoperand, literals, List.mapM_cons]
    cases (Form.compare comparison value).operand? value <;> rfl
  | member cased values =>
    have hoperand (value : Literal) : (Form.member cased values).operand? value =
        some (exactOperand cased value) := by
      cases value <;> rfl
    rw [operands?, literals, funext hoperand]
    exact (List.mapM_pure (m := Option)).symm
  | call f arguments =>
    rw [operands?, literals, List.mapM_map]
    rfl
  | option name => rfl

/-- A form can be tested if its texts make patterns. -/
theorem isSome_operands?_iff : form.operands?.isSome = true ↔
    ∀ value ∈ form.literals, (form.operand? value).isSome = true := by
  rw [operands?_eq_mapM, isSome_mapM]

theorem satisfiedBy_iff_accepts (h : form.operand? value = some o) :
    o.satisfiedBy s = true ↔ form.Accepts value s := by
  cases value with
  | text u =>
    obtain ⟨q, hq, rfl⟩ := Option.map_eq_some_iff.mp h
    cases s with
    | text t =>
      have hmatch : (Operand.pattern q).satisfiedBy (.text t) = q.isMatch t.toList := rfl
      simp [Accepts, hq, hmatch]
    | int | unsigned | float | boolean | null =>
      simp [Accepts, Operand.satisfiedBy, Operand.compare]
  | integer | boolean | null =>
    obtain rfl := Option.some.inj h
    rw [Operand.satisfiedBy_scalar]
    exact Literal.scalar_equal_iff _

theorem exists_operand_iff (h : form.operands? = some operands) :
    (∃ o ∈ operands, o.satisfiedBy s = true) ↔ ∃ value ∈ form.literals, form.Accepts value s := by
  rw [operands?_eq_mapM, mapM_eq_some] at h
  generalize form.literals = values at h
  induction h with
  | nil => simp
  | cons hvalue _ ih =>
    simp only [List.exists_mem_cons_iff]
    rw [satisfiedBy_iff_accepts hvalue, ih]

end Form

/-! ### Tests -/

/-- A leaf compiles if the literals of its form do. -/
theorem Leaf.isSome_test?_iff {l : Leaf} {field : String} {form : Form}
    (hl : l.parts? = some (field, form)) :
    l.test?.isSome = true ↔ ∀ value ∈ form.literals, (form.operand? value).isSome = true := by
  rw [← Form.isSome_operands?_iff, Option.isSome_iff_exists, Option.isSome_iff_exists]
  constructor
  · rintro ⟨t, ht⟩
    obtain ⟨-, -, hoperands⟩ := of_test? ht hl
    exact ⟨t.operands, hoperands⟩
  · rintro ⟨operands, hoperands⟩
    exact ⟨⟨field, form, operands, hoperands⟩, test?_eq_some.mpr hl⟩

/-- A test that is not negated asks for a scalar that one of its literals accepts. -/
theorem Test.holds_iff_accepts (ht : t.form.isNegated = false) : t.holds e = true ↔
    ∃ s ∈ e.scalarsAt t.field, ∃ value ∈ t.form.literals, t.form.Accepts value s := by
  rw [Test.holds_iff ht]
  exact exists_congr fun s => and_congr_right fun _ => Form.exists_operand_iff t.operands_eq

theorem Test.holds_of_missing (h : e.find? t.field = none) : t.holds e = false := by
  rw [Test.holds, h]

theorem Test.holds_of_find? {v : Value} (h : e.find? t.field = some v) :
    t.holds e = (t.satisfiedBy v != t.form.isNegated) := by
  rw [Test.holds, h]

/-- The test that a field is equal to what another asks it not to be equal to. -/
theorem exists_test_equal {value : Literal} (ht : t.form = .compare .unequal value) :
    ∃ t', (Leaf.compare t.field .equal value).test? = some t' ∧ t'.field = t.field ∧
      t'.form.isNegated = false ∧ t'.operands = t.operands := by
  have hoperands : (Form.compare .equal value).operands? = some t.operands := by
    rw [← t.operands_eq, ht]
    rfl
  exact ⟨⟨t.field, _, _, hoperands⟩, Leaf.test?_eq_some.mpr rfl, rfl, rfl, rfl⟩

/-- **Tests of nested values.** A test of a missing field does not hold. Any other looks at the
scalars that are reached in the field through sequences only; if it is not negated, it holds if one
of its literals accepts one of these. A field is unequal to a literal if it is there and not equal
to it, so that `f != v` and `not f == v` differ on events without `f` and on no others. -/
theorem holds_iff_reaches (t : Test) (e : Event) :
    (e.find? t.field = none → t.holds e = false) ∧
    (∀ v, e.find? t.field = some v → t.form.isNegated = false →
      (t.holds e = true ↔
        ∃ s, v.Reaches s ∧ ∃ value ∈ t.form.literals, t.form.Accepts value s)) ∧
    ∀ value, t.form = .compare .unequal value →
      ∃ t', (Leaf.compare t.field .equal value).test? = some t' ∧
        (t.holds e = true ↔ (∃ v, e.find? t.field = some v) ∧ t'.holds e = false) ∧
        (t.holds e ≠ (Condition.negation (.test t')).holds e ↔ e.find? t.field = none) := by
  refine ⟨Test.holds_of_missing, fun v hv ht => ?_, fun value ht => ?_⟩
  · rw [Test.holds_iff_accepts ht, Event.scalarsAt_of_find? hv]
    simp only [Value.mem_scalars_iff]
  · obtain ⟨t', ht', hfield, hform', hoperands⟩ := exists_test_equal ht
    have hform : t.form.isNegated = true := by rw [ht]; rfl
    refine ⟨t', ht', ?_⟩
    rw [Condition.holds, Condition.holds]
    cases hv : e.find? t.field with
    | none =>
      have hmissing : e.find? t'.field = none := hfield ▸ hv
      simp [Test.holds_of_missing hv, Test.holds_of_missing hmissing]
    | some v =>
      have hfound : e.find? t'.field = some v := hfield ▸ hv
      have hsame : t'.satisfiedBy v = t.satisfiedBy v := Test.satisfiedBy_congr hoperands v
      simp [Test.holds_of_find? hv, Test.holds_of_find? hfound, hform, hform', hsame]

/-- A text in a record does not count, so the field that holds the record is unequal to the text. -/
theorem holds_iff_reaches_record : ∃ t, (Leaf.compare "f" .unequal (.text "x")).test? = some t ∧
    t.holds ⟨[("f", .sequence [.record [("x", .text "x")]])]⟩ = true ∧ t.holds {} = false := by
  let e : Event := ⟨[("f", .sequence [.record [("x", .text "x")]])]⟩
  obtain ⟨t, ht⟩ : ∃ t, (Leaf.compare "f" .unequal (.text "x")).test? = some t :=
    Option.isSome_iff_exists.mp (by decide)
  obtain ⟨hfield, hform, -⟩ := Leaf.of_test? ht rfl
  obtain ⟨t', ht', hholds, -⟩ := (holds_iff_reaches t e).2.2 _ hform
  obtain ⟨hfield', hform', -⟩ := Leaf.of_test? ht' rfl
  have hv : e.find? t'.field = some (.sequence [.record [("x", .text "x")]]) := by
    rw [hfield', hfield]
    rfl
  have hequal : t'.holds e = false := by
    rw [Bool.eq_false_iff]
    intro h
    obtain ⟨s, hs, -⟩ := ((holds_iff_reaches t' e).2.1 _ hv (by rw [hform']; rfl)).mp h
    rcases hs with _ | ⟨hw, hs⟩
    obtain rfl := List.mem_singleton.mp hw
    cases hs
  refine ⟨t, ht, hholds.mpr ⟨⟨_, hfield' ▸ hv⟩, hequal⟩, (holds_iff_reaches t {}).1 ?_⟩
  rw [hfield]
  rfl

end Query

end Vigil
