import Mathlib.Data.List.Basic
import Vigil.Proofs.Query.Grammar
import Vigil.Proofs.Results

/-! # Reading leaves

The readers of the parts of a leaf give what the grammar says.

* `literal?_eq_ok`, `literals?_eq_ok`, `arguments?_eq_ok`, `splitAtLastDot_eq_some`: what each of
  them reads;
* `exists_leaf_of_test?`: what is read as a test is a leaf;
* `test?_tokens`: a leaf that compiles is read as its test, whatever stands after it that can
  follow a condition. -/

namespace Vigil.Query

variable {ts rest : List Token}

/-! ### Lists of literals -/

theorem literal?_eq_ok {operator : Token} {v : Literal} :
    literal? operator ts = .ok (v, rest) ↔ ts = .literal v :: rest := by
  unfold literal?
  split <;> simp_all

theorem literals?_eq_ok {operator : Token} {vs : List Literal} :
    literals? operator ts = .ok (vs, rest) ↔ ts = listed vs ++ .closing :: rest := by
  constructor
  · intro h
    fun_induction literals? operator ts generalizing vs with
    | case1 r => simp_all [listed]
    | case2 v r ih =>
      obtain ⟨⟨us, u⟩, hus, heq⟩ := map_eq_ok.mp h
      cases heq
      simp [listed, ih hus]
    | case3 r hne =>
      obtain ⟨⟨us, u⟩, hus, heq⟩ := map_eq_ok.mp h
      exact absurd (literal?_eq_ok.mp hus) (hne _ _)
    | case4 => cases h
  · rintro rfl
    induction vs with
    | nil => rfl
    | cons v vs ih => exact map_eq_ok.mpr ⟨_, ih, rfl⟩

theorem arguments?_eq_ok {function : String} {ss : List String} :
    arguments? function ts = .ok (ss, rest) ↔ ts = listed (ss.map .text) ++ .closing :: rest := by
  constructor
  · intro h
    fun_induction arguments? function ts generalizing ss with
    | case1 r => simp_all [listed]
    | case2 s r ih =>
      obtain ⟨⟨us, u⟩, hus, heq⟩ := map_eq_ok.mp h
      cases heq
      simp [listed, ih hus]
    | case3 => cases h
    | case4 => cases h
  · rintro rfl
    induction ss with
    | nil => rfl
    | cons s ss ih => exact map_eq_ok.mpr ⟨_, ih, rfl⟩

/-! ### Names with dots -/

theorem splitAtLastDot_eq_some {name field chosen : String} :
    splitAtLastDot name = some (field, chosen) ↔
      name = field ++ "." ++ chosen ∧ '.' ∉ chosen.toList := by
  unfold splitAtLastDot
  constructor
  · intro h
    have hsplit := (name.toList.reverse).takeWhile_append_dropWhile (p := (· != '.'))
    rcases hdrop : name.toList.reverse.dropWhile (· != '.') with _ | ⟨c, before⟩
    · simp [hdrop] at h
    · simp only [hdrop, Option.some.injEq, Prod.mk.injEq] at h
      obtain ⟨rfl, rfl⟩ := h
      have hc : c = '.' := by
        have := List.head?_dropWhile_not (· != '.') name.toList.reverse
        simpa [hdrop] using this
      subst hc
      constructor
      · apply String.toList_injective
        rw [hdrop] at hsplit
        simpa using (congrArg List.reverse hsplit).symm
      · intro hmem
        simp only [String.toList_ofList, List.mem_reverse] at hmem
        simpa using List.all_eq_true.mp List.all_takeWhile '.' hmem
  · rintro ⟨rfl, hdot⟩
    have hne : ∀ c ∈ chosen.toList.reverse, (c != '.') = true := by
      intro c hc
      rw [List.mem_reverse] at hc
      simpa using ne_of_mem_of_not_mem hc hdot
    simp [List.dropWhile_append_of_pos hne, List.takeWhile_append_of_pos hne]

/-! ### Leaves -/

/-- The parts of a test are those of a leaf, which compiles to what they compile to. -/
theorem exists_leaf_of_form? {name field : String} {form : Form}
    (h : form? name ts = .ok ((field, form), rest)) :
    ∃ l : Leaf, .identifier name :: ts = l.tokens ++ rest ∧
      l.test? = (Test.ofForm? field form).toOption := by
  unfold form? at h
  split at h
  case h_1 c r =>
    obtain ⟨⟨v, u⟩, hv, heq⟩ := map_eq_ok.mp h
    cases heq
    obtain rfl := literal?_eq_ok.mp hv
    exact ⟨.compare name c v, rfl, rfl⟩
  case h_2 cased r =>
    obtain ⟨⟨v, u⟩, hv, h⟩ := bind_eq_ok.mp h
    obtain ⟨⟨vs, w⟩, hvs, heq⟩ := bind_eq_ok.mp h
    cases heq
    obtain rfl := literal?_eq_ok.mp hv
    obtain rfl := literals?_eq_ok.mp hvs
    exact ⟨.member name cased v vs, by simp [Leaf.tokens], rfl⟩
  case h_3 => cases h
  case h_4 r =>
    split at h
    case h_1 => cases h
    case h_2 call target r hcall =>
      obtain ⟨⟨ss, w⟩, hss, hform⟩ := bind_eq_ok.mp h
      obtain rfl := arguments?_eq_ok.mp hss
      rcases ss with _ | ⟨s, ss⟩
      · cases hform
      · cases hform
        exact ⟨.call name field s ss, by simp [Leaf.tokens], by simp [Leaf.test?, hcall]⟩
    case h_3 => cases h
  case h_5 =>
    split at h
    case h_1 target chosen hsplit =>
      split at h
      case isTrue => cases h
      case isFalse hne =>
        cases h
        simp only [String.isEmpty_iff, Bool.or_eq_true, not_or] at hne
        obtain ⟨rfl, hdot⟩ := splitAtLastDot_eq_some.mp hsplit
        exact ⟨.option _ chosen hne.1 hne.2 hdot, rfl, rfl⟩
    case h_2 => cases h

theorem exists_leaf_of_test? {name : String} {c : Condition} (h : test? name ts = .ok (c, rest)) :
    ∃ l : Leaf, .identifier name :: ts = l.tokens ++ rest ∧ l.test?.map .test = some c := by
  obtain ⟨⟨⟨field, form⟩, r⟩, hform, h⟩ := bind_eq_ok.mp h
  obtain ⟨t, ht, heq⟩ := bind_eq_ok.mp h
  cases heq
  obtain ⟨l, hl, htest⟩ := exists_leaf_of_form? hform
  exact ⟨l, hl, by rw [htest, toOption_eq_some.mpr ht]; rfl⟩

theorem form?_of_stops {name field chosen : String}
    (hsplit : splitAtLastDot name = some (field, chosen)) (hfield : field ≠ "")
    (hchosen : chosen ≠ "") (hrest : Stops negationPower rest) :
    form? name rest = .ok ((field, .option chosen), rest) := by
  unfold form?
  split
  case h_5 => simp [hsplit, hfield, hchosen]
  all_goals exact hrest.elim

/-- A leaf that compiles is read as its test, if the tokens after it can follow a condition. -/
theorem test?_tokens {l : Leaf} {t : Test} (ht : l.test? = some t)
    (hrest : Stops negationPower rest) {name : String}
    (h : .identifier name :: ts = l.tokens ++ rest) :
    test? name ts = .ok (.test t, rest) := by
  have htest {field : String} {form : Form} (hform : form? name ts = .ok ((field, form), rest))
      (ht : (Test.ofForm? field form).toOption = some t) : test? name ts = .ok (.test t, rest) :=
    bind_eq_ok.mpr ⟨_, hform, bind_eq_ok.mpr ⟨t, toOption_eq_some.mp ht, rfl⟩⟩
  cases l with
  | compare n c v =>
    cases h
    exact htest rfl ht
  | member n cased v vs =>
    simp only [Leaf.tokens, List.cons_append, List.nil_append, List.append_assoc, List.cons.injEq,
      Token.identifier.injEq] at h
    obtain ⟨rfl, rfl⟩ := h
    exact htest (bind_eq_ok.mpr ⟨_, rfl, bind_eq_ok.mpr ⟨_, literals?_eq_ok.mpr rfl, rfl⟩⟩) ht
  | call n field s ss =>
    simp only [Leaf.tokens, List.cons_append, List.nil_append, List.append_assoc, List.cons.injEq,
      Token.identifier.injEq] at h
    obtain ⟨rfl, rfl⟩ := h
    obtain ⟨call, hcall, ht⟩ := Option.bind_eq_some_iff.mp ht
    refine htest ?_ ht
    unfold form?
    rw [hcall]
    exact bind_eq_ok.mpr ⟨_, arguments?_eq_ok.mpr rfl, rfl⟩
  | option field chosen hfield hchosen hdot =>
    cases h
    exact htest (form?_of_stops (splitAtLastDot_eq_some.mpr ⟨rfl, hdot⟩) hfield hchosen hrest) ht

end Vigil.Query
