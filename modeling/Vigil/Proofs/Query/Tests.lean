import Mathlib.Data.List.Basic
import Vigil.Proofs.Event.Fields
import Vigil.Proofs.Pattern.Wildcard
import Vigil.Proofs.Query.Dependence
import Vigil.Proofs.Query.Grammar
import Vigil.Proofs.Results
import Vigil.Proofs.Text.Casing

/-! # What tests ask for

A test of one pattern asks that its field be a text of some kind (`Test.Asks`), in events where the
field is a text or missing.

* `exists_test`: the test of a form with one pattern exists, and asks for a text that the pattern
  matches;
* `exists_test_wildcard`, `exists_test_named`, `exists_test_option`: the tests that compare with
  wildcards and with names;
* `Test.holds_of_no_texts`: where there are no texts, a test that asks for them does not hold. -/

namespace Vigil.Query

open Vigil.Text

variable {field : String} {form : Form} {q : Pattern}

/-- **What a test asks for.** Where the field is a text or missing, the test holds if it is a text
with a property. -/
def Test.Asks (t : Test) (field : String) (P : String → Prop) : Prop :=
  ∀ (e : Event) (text : Option String), e.find? field = text.map .text →
    (t.holds e = true ↔ ∃ u, text = some u ∧ P u)

theorem Test.Asks.congr {t : Test} {P Q : String → Prop} (h : t.Asks field P)
    (hPQ : ∀ u, P u ↔ Q u) : t.Asks field Q := by
  intro e text htext
  rw [h e text htext]
  simp only [hPQ]

theorem asks_of_pattern {t : Test} (hoperands : t.operands = [.pattern q])
    (hform : t.form.isNegated = false) : t.Asks t.field fun u => q.isMatch u.toList = true := by
  intro e text htext
  rcases text with _ | u
  · simp [Test.holds, htext]
  · have hoperand : (Operand.pattern q).satisfiedBy (.text u) = q.isMatch u.toList := rfl
    have hsatisfied : t.satisfiedBy (.text u) = q.isMatch u.toList := by
      simp [Test.satisfiedBy, Value.text, hoperands, hoperand]
    simp [Test.holds, htext, hform, hsatisfied]

/-- A test of one pattern exists, and asks for a text that the pattern matches. -/
theorem exists_test (h : form.operands? = some [.pattern q]) (hform : form.isNegated = false) :
    ∃ t, (Test.ofForm? field form).toOption = some t ∧
      t.Asks field fun u => q.isMatch u.toList = true := by
  refine ⟨⟨field, form, [.pattern q], h⟩, ?_, asks_of_pattern rfl hform⟩
  unfold Test.ofForm?
  split
  case h_1 operands hoperands =>
    obtain rfl := Option.some.inj (hoperands.symm.trans h)
    rfl
  case h_2 hnone => cases hnone.symm.trans h

/-! ### Comparisons -/

variable {c : Comparison} {s : String}

theorem exists_test_compare (hc : c ≠ .unequal)
    (hq : Pattern.wildcard? s.toList (c != .similar) = some q) :
    ∃ t, (Leaf.compare field c (.text s)).test? = some t ∧
      t.Asks field fun u => q.isMatch u.toList = true := by
  apply exists_test
  · simp [Form.operands?, Form.wildcardOperand?, hq]
  · cases c with
    | unequal => exact absurd rfl hc
    | equal => rfl
    | similar => rfl

/-- A comparison with a wildcard asks for a text that fills it. -/
theorem exists_test_wildcard (hc : c ≠ .unequal) (hstar : '*' ∈ s.toList)
    (hsome : (Pattern.wildcard? s.toList (c != .similar)).isSome) :
    ∃ t, (Leaf.compare field c (.text s)).test? = some t ∧
      t.Asks field fun u => ∃ ws, Pattern.Fills (Agrees (c != .similar)) s.toList ws u.toList := by
  obtain ⟨q, hq⟩ := Option.isSome_iff_exists.mp hsome
  obtain ⟨t, ht, hasks⟩ : ∃ t, (Leaf.compare field c (.text s)).test? = some t ∧
      t.Asks field fun u => q.isMatch u.toList = true := exists_test_compare hc hq
  exact ⟨t, ht, hasks.congr fun u => Pattern.isMatch_wildcard?_iff hstar hq⟩

/-! ### Calls -/

/-- A call with one pattern asks for a text that this matches. -/
theorem exists_test_call {name s : String} {f : Function} {cased : Bool}
    (hname : Call.ofName? name = some ⟨f, cased⟩) (hq : f.pattern? s cased = some q) :
    ∃ t, (Leaf.call name field s []).test? = some t ∧
      t.Asks field fun u => q.isMatch u.toList = true := by
  rw [Leaf.test?, hname]
  apply exists_test
  · simp [Form.operands?, hq]
  · rfl

/-! ### Names -/

theorem isMatch_ofText_iff (h : IsDomestic (s.toList.map asciiLower)) {u : String} :
    (Pattern.ofText s.toList false).isMatch u.toList = true ↔
      equalIgnoringAsciiCase u s = true := by
  have hlower : lower s.toList = s.toList.map asciiLower := (lower_eq_iff h).mpr rfl
  rw [Pattern.isMatch_ofText, hlower, lower_eq_iff h, equalIgnoringAsciiCase, beq_iff_eq]

/-- A comparison with a name that has only ASCII letters other than `k` is one up to the case of
these. -/
theorem exists_test_named (hstar : '*' ∉ s.toList) (h : IsDomestic (s.toList.map asciiLower)) :
    ∃ t, (Leaf.compare field .similar (.text s)).test? = some t ∧
      t.Asks field fun u => equalIgnoringAsciiCase u s = true := by
  have hq : Pattern.wildcard? s.toList (Comparison.similar != .similar) =
      some (Pattern.ofText s.toList false) :=
    Pattern.wildcard?_of_no_star hstar
  obtain ⟨t, ht, hasks⟩ : ∃ t, (Leaf.compare field .similar (.text s)).test? = some t ∧
      t.Asks field fun u => (Pattern.ofText s.toList false).isMatch u.toList = true :=
    exists_test_compare (by decide) hq
  exact ⟨t, ht, hasks.congr fun u => isMatch_ofText_iff h⟩

/-- An option asks for its name, up to case. -/
theorem exists_test_option (hfield : field ≠ "") (hs : s ≠ "") (hdot : '.' ∉ s.toList)
    (h : IsDomestic (s.toList.map asciiLower)) :
    ∃ t, (Leaf.option field s hfield hs hdot).test? = some t ∧
      t.Asks field fun u => equalIgnoringAsciiCase u s = true := by
  obtain ⟨t, ht, hasks⟩ : ∃ t, (Test.ofForm? field (.option s)).toOption = some t ∧
      t.Asks field fun u => (Pattern.ofText s.toList false).isMatch u.toList = true :=
    exists_test rfl rfl
  exact ⟨t, ht, hasks.congr fun u => isMatch_ofText_iff h⟩

/-! ### Fields that are no texts -/

/-- Whether a literal is a text. -/
def Literal.isText : Literal → Bool
  | .text _ => true
  | _ => false

/-- Whether a test asks for texts, and for nothing else. -/
def Form.asksForTexts : Form → Bool
  | .compare c value => c != .unequal && value.isText
  | .member _ values => values.all Literal.isText
  | .call _ _ => true
  | .option _ => true

theorem Form.isNegated_of_asksForTexts (h : form.asksForTexts = true) :
    form.isNegated = false := by
  cases form with
  | compare c value =>
    cases c with
    | unequal => cases h
    | equal | similar => rfl
  | member | call | option => rfl

/-- What is asked for texts only has patterns for operands. -/
theorem Form.exists_pattern {operands : List Operand} {o : Operand}
    (h : form.asksForTexts = true) (hoperands : form.operands? = some operands)
    (ho : o ∈ operands) : ∃ q, o = .pattern q := by
  cases form with
  | compare c value =>
    cases value with
    | text s =>
      obtain ⟨o', ho', rfl⟩ := Option.map_eq_some_iff.mp hoperands
      obtain ⟨q, -, rfl⟩ := Option.map_eq_some_iff.mp ho'
      exact ⟨q, List.mem_singleton.mp ho⟩
    | integer | boolean | null => simp [asksForTexts, Literal.isText] at h
  | member cased values =>
    cases hoperands
    obtain ⟨value, hvalue, rfl⟩ := List.mem_map.mp ho
    have htext : value.isText = true := List.all_eq_true.mp h value hvalue
    cases value with
    | text s => exact ⟨_, rfl⟩
    | integer | boolean | null => cases htext
  | call f arguments =>
    obtain ⟨s, -, hs⟩ := exists_of_mem_mapM hoperands ho
    obtain ⟨q, -, rfl⟩ := Option.map_eq_some_iff.mp hs
    exact ⟨q, rfl⟩
  | option name =>
    cases hoperands
    exact ⟨_, List.mem_singleton.mp ho⟩

theorem Test.holds_of_no_texts {t : Test} {e : Event} (h : t.form.asksForTexts = true)
    (hno : ∀ s ∈ e.scalarsAt t.field, s.text? = none) : t.holds e = false := by
  rw [Bool.eq_false_iff]
  intro hholds
  obtain ⟨s, hs, o, ho, hsatisfied⟩ := (holds_iff (Form.isNegated_of_asksForTexts h)).mp hholds
  obtain ⟨q, rfl⟩ := Form.exists_pattern h t.operands_eq ho
  have hnone : s.text? = none := hno s hs
  cases s with
  | text s => cases hnone
  | int | unsigned | float | boolean | null => cases hsatisfied

end Vigil.Query

namespace Vigil.Value

/-- A value that is neither a text nor a sequence has no texts for a test to look at. -/
theorem text?_of_mem_scalars {v : Value} {s : Scalar} (htext : v.text? = none)
    (hsequence : ∀ items, v ≠ .sequence items) (hs : s ∈ v.scalars) : s.text? = none := by
  cases v with
  | scalar t =>
    obtain rfl := List.mem_singleton.mp hs
    exact htext
  | sequence items => exact absurd rfl (hsequence items)
  | record fields => cases hs

end Vigil.Value
