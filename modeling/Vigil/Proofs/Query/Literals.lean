import Vigil.Proofs.Pattern.Literals
import Vigil.Proofs.Query.Rendering
import Vigil.Proofs.Query.Tests
import Vigil.Proofs.Text.Folding

/-! # Literals compared directly

A literal without a star is compared directly, and an escaped literal in a call of `match` as an
expression. The first looks at lower-case forms and the second at folding, so without regard to
case the two are only sure to agree on regular texts.

* `isMatch_ofText_eq`: the two patterns;
* `exists_isMatch_ne`: characters on which they do not agree;
* `direct_agrees_with_regex`: the two patterns and the two tests. -/

namespace Vigil.Query

open Vigil.Text Vigil.Pattern

variable {cased : Bool} {cs ts : List Char} {q r : Pattern}

/-! ### Patterns -/

theorem isMatch_ofText_iff_equal : (Pattern.ofText cs cased).isMatch ts = true ↔
    if cased then cs = ts else lower cs = lower ts := by
  cases cased with
  | false => exact isMatch_ofText.trans eq_comm
  | true =>
    unfold Pattern.ofText Pattern.isMatch Pattern.compare
    by_cases h : cs = ts <;> simp [h]

/-- **Direct comparison and expressions.** An escaped literal matches as an expression what the
literal is equal to, for all texts or, without regard to case, for regular ones. -/
theorem isMatch_ofText_eq (hr : Pattern.regex? (escaped cs) cased = some r)
    (h : cased = false → IsRegularText cs ∧ IsRegularText ts) :
    (Pattern.ofText cs cased).isMatch ts = r.isMatch ts := by
  rw [Bool.eq_iff_iff, isMatch_ofText_iff_equal, isMatch_regex?_escaped hr]
  cases cased with
  | true => rw [TextAgrees, agrees_true, List.forall₂_eq_eq_eq, if_pos rfl]
  | false =>
    obtain ⟨hcs, hts⟩ := h rfl
    rw [if_neg Bool.false_ne_true, lower_eq_lower_iff hcs hts]
    rfl

/-- Each character that is not regular makes a literal that its expression does not agree with. -/
theorem exists_isMatch_ne {c : Char} (hc : ¬ IsRegular c)
    (hr : Pattern.regex? (escaped [c]) false = some r) :
    ∃ ts, (Pattern.ofText [c] false).isMatch ts ≠ r.isMatch ts := by
  obtain ⟨ts, hts⟩ := exists_not_iff_of_not_isRegular hc
  refine ⟨ts, fun h => hts ?_⟩
  rwa [Bool.eq_iff_iff, isMatch_ofText_iff_equal, isMatch_regex?_escaped hr] at h

/-! ### Tests -/

/-- Whether the texts in a field of an event are regular. -/
def IsRegularIn (e : Event) (field : String) : Prop :=
  ∀ v, e.find? field = some v → ∀ s, .text s ∈ v.scalars → IsRegularText s.toList

/-- Tests of one field that each compare it with one pattern, and not for being unequal, agree where
their patterns do. -/
theorem holds_eq_of_isMatch_eq {t₁ t₂ : Test} {e : Event} (h₁ : t₁.operands = [.pattern q])
    (h₂ : t₂.operands = [.pattern r]) (hfield : t₁.field = t₂.field)
    (hform₁ : t₁.form.isNegated = false) (hform₂ : t₂.form.isNegated = false)
    (h : ∀ v, e.find? t₁.field = some v → ∀ s, .text s ∈ v.scalars →
      q.isMatch s.toList = r.isMatch s.toList) :
    t₁.holds e = t₂.holds e := by
  unfold Test.holds
  rw [← hfield, hform₁, hform₂]
  cases hv : e.find? t₁.field with
  | none => rfl
  | some v =>
    have hscalars : ∀ s ∈ v.scalars, (Operand.pattern q).satisfiedBy s =
        (Operand.pattern r).satisfiedBy s := by
      intro s hs
      cases s with
      | text s => exact h v hv s hs
      | _ => rfl
    have hsatisfied : t₁.satisfiedBy v = t₂.satisfiedBy v := by
      simp only [Test.satisfiedBy_eq_any, h₁, h₂, List.any_cons, List.any_nil, Bool.or_false]
      rw [Bool.eq_iff_iff, List.any_eq_true, List.any_eq_true]
      exact exists_congr fun s => and_congr_right fun hs => by rw [hscalars s hs]
    exact congrArg (· != false) hsatisfied

/-- The comparison with regard to case or without. -/
def comparisonOf (cased : Bool) : Comparison := if cased then .equal else .similar

theorem exists_test_direct (field : String) {p : String}
    (hq : Pattern.wildcard? p.toList cased = some q) :
    ∃ t, (Leaf.compare field (comparisonOf cased) (.text p)).test? = some t ∧ t.field = field ∧
      t.form.isNegated = false ∧ t.operands = [.pattern q] := by
  have hcased : (comparisonOf cased != .similar) = cased := by cases cased <;> rfl
  have hoperands : (Form.compare (comparisonOf cased) (.text p)).operands? = some [.pattern q] := by
    simp [Form.operands?, Form.wildcardOperand?, hcased, hq]
  refine ⟨⟨field, _, _, hoperands⟩, Leaf.test?_eq_some.mpr rfl, rfl, ?_, rfl⟩
  cases cased <;> rfl

theorem exists_test_match (field : String) {s : String}
    (hr : Pattern.regex? s.toList cased = some r) :
    ∃ t, (Leaf.call (Call.render ⟨.regex, cased⟩) field s []).test? = some t ∧ t.field = field ∧
      t.form.isNegated = false ∧ t.operands = [.pattern r] := by
  have hoperands : (Form.call ⟨.regex, cased⟩ [s]).operands? = some [.pattern r] := by
    simp [Form.operands?, Function.pattern?, hr]
  refine ⟨⟨field, _, _, hoperands⟩, Leaf.test?_eq_some.mpr ?_, rfl, rfl, rfl⟩
  rw [Leaf.parts?, ofName?_render]
  rfl

/-- **Literals compared directly.** For a literal `p` without a star the escaped literal is an
expression, unless it is too large. The literal matches the texts equal to it, if need be in lower
case, and the expression those that agree with it character by character, if need be up to folding.
These are the same texts, and `f == "p"` or `f : "p"` holds of the same events as the call of
`match` or `match~` with the escaped literal; without regard to case, where `p` and the texts are
regular. A single character that is not regular is no such `p`. -/
theorem direct_agrees_with_regex {p : String} (hstar : '*' ∉ p.toList) (cased : Bool) :
    (p.toList.length ≤ literalLimit → (Pattern.regex? (escaped p.toList) cased).isSome) ∧
    ∀ r, Pattern.regex? (escaped p.toList) cased = some r →
      ∃ q, Pattern.wildcard? p.toList cased = some q ∧
        (∀ ts, (q.isMatch ts = true ↔ if cased then p.toList = ts else lower p.toList = lower ts) ∧
          (r.isMatch ts = true ↔ TextAgrees cased p.toList ts) ∧
          ((cased = false → IsRegularText p.toList ∧ IsRegularText ts) →
            q.isMatch ts = r.isMatch ts)) ∧
        (cased = false → ∀ c, p.toList = [c] → ¬ IsRegular c →
          ∃ ts, q.isMatch ts ≠ r.isMatch ts) ∧
        ∀ field, ∃ t₁ t₂,
          (Leaf.compare field (comparisonOf cased) (.text p)).test? = some t₁ ∧
          (Leaf.call (Call.render ⟨.regex, cased⟩) field
            (String.ofList (escaped p.toList)) []).test? = some t₂ ∧
          ∀ e, (cased = false → IsRegularText p.toList ∧ IsRegularIn e field) →
            t₁.holds e = t₂.holds e := by
  refine ⟨isSome_regex?_escaped, fun r hr => ?_⟩
  have hq : Pattern.wildcard? p.toList cased = some (Pattern.ofText p.toList cased) :=
    Pattern.wildcard?_of_no_star hstar
  refine ⟨_, hq, fun ts => ⟨isMatch_ofText_iff_equal, isMatch_regex?_escaped hr,
    isMatch_ofText_eq hr⟩, ?_, fun field => ?_⟩
  · rintro rfl c hc hregular
    rw [hc] at hr ⊢
    exact exists_isMatch_ne hregular hr
  obtain ⟨t₁, ht₁, hfield₁, hform₁, hoperands₁⟩ := exists_test_direct field hq
  obtain ⟨t₂, ht₂, hfield₂, hform₂, hoperands₂⟩ :=
    exists_test_match field (s := String.ofList (escaped p.toList)) (by rwa [String.toList_ofList])
  refine ⟨t₁, t₂, ht₁, ht₂, fun e he => ?_⟩
  refine holds_eq_of_isMatch_eq hoperands₁ hoperands₂ (hfield₁.trans hfield₂.symm) hform₁ hform₂ ?_
  intro v hv s hs
  refine isMatch_ofText_eq hr fun hcased => ⟨(he hcased).1, ?_⟩
  exact (he hcased).2 v (hfield₁ ▸ hv) s hs

/-- A file name, whose full stop is escaped, and the same in capitals. -/
theorem direct_agrees_with_regex_file : '*' ∉ "net.exe".toList ∧
    ∃ q r, Pattern.wildcard? "net.exe".toList false = some q ∧
      Pattern.regex? "net\\.exe".toList false = some r ∧
      q.isMatch "NET.EXE".toList = true ∧ r.isMatch "NET.EXE".toList = true := by
  have hstar : '*' ∉ "net.exe".toList := by decide
  have hescaped : escaped "net.exe".toList = "net\\.exe".toList := by decide
  obtain ⟨hsome, hall⟩ := direct_agrees_with_regex hstar false
  obtain ⟨r, hr⟩ := Option.isSome_iff_exists.mp (hsome (by decide))
  obtain ⟨q, hq, hmatch, -⟩ := hall r hr
  obtain ⟨hequal, -, hsame⟩ := hmatch "NET.EXE".toList
  have hdirect : q.isMatch "NET.EXE".toList = true := hequal.mpr (by decide +kernel)
  have hregular : IsRegularText "net.exe".toList ∧ IsRegularText "NET.EXE".toList :=
    ⟨isRegularText_of_ascii (by simp), isRegularText_of_ascii (by simp)⟩
  exact ⟨hstar, q, r, hq, hescaped ▸ hr, hdirect, hsame (fun _ => hregular) ▸ hdirect⟩

/-- The capital I with a dot above is equal in lower case to two characters, which no expression of
one character matches. -/
theorem direct_differs_from_regex : '*' ∉ ['İ'] ∧
    ∃ q r, Pattern.wildcard? ['İ'] false = some q ∧
      Pattern.regex? (escaped ['İ']) false = some r ∧
      q.isMatch ['i', '\u0307'] = true ∧ r.isMatch ['i', '\u0307'] = false := by
  have hsome : (Pattern.regex? (escaped ['İ']) false).isSome := isSome_regex?_escaped (by decide)
  obtain ⟨r, hr⟩ := Option.isSome_iff_exists.mp hsome
  refine ⟨by decide, _, r, if_neg (by decide), hr, ?_, ?_⟩
  · rw [isMatch_ofText, lower_singleton (by decide), ← lowerChar_dotted, lower_lowerChar]
  · rw [← Bool.not_eq_true, isMatch_regex?_escaped hr]
    rintro (_ | ⟨-, h⟩)
    cases h

end Vigil.Query
