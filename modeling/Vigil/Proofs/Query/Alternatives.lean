import Mathlib.Data.List.Basic
import Vigil.Proofs.Query.Identifiers
import Vigil.Proofs.Query.Literals
import Vigil.Proofs.Query.Satisfaction

/-! # Alternatives

A list of literals is short for leaves joined by `or` (`Derivation.anyOf`), each with one of the
literals, and so are the patterns of a call. What each of these tests seeks (`Test.Seeks`) is a
scalar in the same field, so it does not matter whether the literal or the scalar is chosen first.

* `exists_condition_anyOf`: leaves joined by `or` hold where one of them does;
* `exists_anyOf_of_seeks`: a test that seeks what one of several leaves seeks;
* `lists_are_disjunctions`: memberships, calls and options. -/

namespace Vigil.Query

open Vigil.Pattern

variable {t : Test} {l : Leaf} {ls : List Leaf} {field : String} {form : Form} {e : Event}

/-! ### Leaves joined by `or` -/

/-- Leaves joined by `or`. -/
def Derivation.anyOf : Leaf → List Leaf → Derivation .disjunction
  | l, [] => .alone (.single (.plain (.leaf l)))
  | l, m :: ls => .or (.single (.plain (.leaf l))) (anyOf m ls)

/-- Leaves that compile can be joined by `or`, and the condition holds where one of them does. -/
theorem exists_condition_anyOf (h : ∀ m ∈ l :: ls, ∃ t, m.test? = some t) :
    ∃ c, (Derivation.anyOf l ls).condition? = some c ∧
      ∀ e, c.holds e = true ↔ ∃ m ∈ l :: ls, ∃ t, m.test? = some t ∧ t.holds e = true := by
  induction ls generalizing l with
  | nil =>
    obtain ⟨t, ht⟩ := h l List.mem_cons_self
    refine ⟨.test t, by simp [Derivation.anyOf, Derivation.condition?, ht], fun e => ?_⟩
    simp [Condition.holds, ht]
  | cons m ls ih =>
    obtain ⟨t, ht⟩ := h l List.mem_cons_self
    obtain ⟨c, hc, hholds⟩ := ih fun m' hm' => h m' (List.mem_cons_of_mem l hm')
    refine ⟨.disjunction (.test t) c, ?_, fun e => ?_⟩
    · simp [Derivation.anyOf, Derivation.condition?, ht, hc]
    · rw [Condition.holds, Bool.or_eq_true, hholds e, List.exists_mem_cons_iff]
      simp [Condition.holds, ht]

/-! ### What a test seeks -/

/-- Whether a test holds where a scalar with a property is in a field. -/
def Test.Seeks (t : Test) (field : String) (P : Scalar → Prop) : Prop :=
  ∀ e : Event, t.holds e = true ↔ ∃ s ∈ e.scalarsAt field, P s

theorem Test.Seeks.holds_scalar_iff {P : Scalar → Prop} {s : Scalar} (h : t.Seeks field P)
    (he : e.find? field = some (.scalar s)) : t.holds e = true ↔ P s := by
  have hscalars : e.scalarsAt field = [s] := Event.scalarsAt_of_find? he
  rw [h e, hscalars]
  simp

/-- A leaf whose literals compile makes a test, which seeks what one of them accepts. -/
theorem Leaf.exists_seeks (hl : l.parts? = some (field, form)) (hform : form.isNegated = false)
    (h : ∀ value ∈ form.literals, (form.operand? value).isSome = true) :
    ∃ t, l.test? = some t ∧
      t.Seeks field fun s => ∃ value ∈ form.literals, form.Accepts value s := by
  obtain ⟨t, ht⟩ := Option.isSome_iff_exists.mp ((isSome_test?_iff hl).mpr h)
  obtain ⟨rfl, rfl, -⟩ := of_test? ht hl
  exact ⟨t, ht, fun e => Test.holds_iff_accepts hform⟩

/-- A test that seeks what one of several leaves seeks holds where these do, joined by `or`. -/
theorem exists_anyOf_of_seeks {α : Type} {a : α} {as : List α} {leaf : α → Leaf}
    {P : α → Scalar → Prop} (ht : t.Seeks field fun s => ∃ b ∈ a :: as, P b s)
    (hleaf : ∀ b ∈ a :: as, ∃ u, (leaf b).test? = some u ∧ u.Seeks field (P b)) :
    ∃ c, (Derivation.anyOf (leaf a) (as.map leaf)).condition? = some c ∧
      ∀ e, t.holds e = c.holds e := by
  have hcompile : ∀ m ∈ leaf a :: as.map leaf, ∃ u, m.test? = some u := by
    rw [← List.map_cons, List.forall_mem_map]
    intro b hb
    obtain ⟨u, hu, -⟩ := hleaf b hb
    exact ⟨u, hu⟩
  obtain ⟨c, hc, hholds⟩ := exists_condition_anyOf hcompile
  refine ⟨c, hc, fun e => ?_⟩
  rw [Bool.eq_iff_iff, ht e, hholds e, ← List.map_cons]
  constructor
  · rintro ⟨s, hs, b, hb, hP⟩
    obtain ⟨u, hu, hseeks⟩ := hleaf b hb
    exact ⟨leaf b, List.mem_map_of_mem hb, u, hu, (hseeks e).mpr ⟨s, hs, hP⟩⟩
  · rintro ⟨_, hm, u, hu, hholds⟩
    obtain ⟨b, hb, rfl⟩ := List.mem_map.mp hm
    obtain ⟨u', hu', hseeks⟩ := hleaf b hb
    obtain rfl := Option.some.inj (hu.symm.trans hu')
    obtain ⟨s, hs, hP⟩ := (hseeks e).mp hholds
    exact ⟨s, hs, b, hb, hP⟩

/-! ### Literals without stars -/

variable {cased : Bool} {value : Literal} {values : List Literal} {s : Scalar}

theorem comparisonOf_ne_similar : (comparisonOf cased != .similar) = cased := by
  cases cased <;> rfl

theorem pattern?_comparisonOf {u : String} (h : '*' ∉ u.toList) :
    (Form.compare (comparisonOf cased) value).pattern? u =
      some (Pattern.ofText u.toList cased) := by
  rw [Form.pattern?, comparisonOf_ne_similar, Pattern.wildcard?_of_no_star h]

/-- Forms with the same patterns accept the same scalars. -/
theorem Form.accepts_congr {form form' : Form}
    (h : ∀ u, value = .text u → form.pattern? u = form'.pattern? u) :
    form.Accepts value s ↔ form'.Accepts value s := by
  cases value with
  | text u => rw [Accepts, Accepts, h u rfl]
  | integer | boolean | null => rfl

theorem Leaf.exists_seeks_one (hl : l.parts? = some (field, form))
    (hform : form.isNegated = false) (hliterals : form.literals = [value])
    (h : (form.operand? value).isSome = true) :
    ∃ t, l.test? = some t ∧ t.Seeks field (form.Accepts value) := by
  obtain ⟨t, ht, hseeks⟩ := exists_seeks hl hform (by simpa [hliterals] using h)
  refine ⟨t, ht, fun e => ?_⟩
  rw [hseeks e, hliterals]
  simp

/-- A comparison with a literal without a star seeks what a membership accepts. -/
theorem exists_seeks_compare (hstar : ∀ u, value = .text u → '*' ∉ u.toList) :
    ∃ t, (Leaf.compare field (comparisonOf cased) value).test? = some t ∧
      t.Seeks field ((Form.member cased values).Accepts value) := by
  have hpattern : ∀ u, value = .text u →
      (Form.compare (comparisonOf cased) value).pattern? u =
        (Form.member cased values).pattern? u :=
    fun u hu => pattern?_comparisonOf (hstar u hu)
  obtain ⟨t, ht, hseeks⟩ : ∃ t, (Leaf.compare field (comparisonOf cased) value).test? = some t ∧
      t.Seeks field ((Form.compare (comparisonOf cased) value).Accepts value) := by
    refine Leaf.exists_seeks_one rfl (by cases cased <;> rfl) rfl ?_
    cases value with
    | text u =>
      rw [Form.operand?, hpattern u rfl]
      rfl
    | integer | boolean | null => rfl
  refine ⟨t, ht, fun e => ?_⟩
  rw [hseeks e]
  simp only [Form.accepts_congr hpattern]

/-! ### Identifiers -/

/-- No identifier has a star in it. -/
theorem star_notMem_of_isIdentifier {name : String} (h : IsIdentifier name) :
    '*' ∉ name.toList := by
  intro hmem
  rcases h.continuesWord hmem with hstar | hstar
  · exact absurd hstar (by decide)
  · exact absurd hstar (by decide)

/-! ### Memberships, calls and options -/

theorem exists_seeks_member :
    ∃ t, (Leaf.member field cased value values).test? = some t ∧ t.Seeks field fun s =>
      ∃ v ∈ value :: values, (Form.member cased (value :: values)).Accepts v s := by
  have hl : (Leaf.member field cased value values).parts? =
      some (field, .member cased (value :: values)) := rfl
  refine Leaf.exists_seeks hl rfl fun v _ => ?_
  cases v <;> rfl

theorem Leaf.parts?_call {name p : String} {ps : List String} {call : Call}
    (hcall : Call.ofName? name = some call) :
    (Leaf.call name field p ps).parts? = some (field, .call call (p :: ps)) := by
  rw [parts?, hcall]
  rfl

/-- A call compiles if all of its patterns do. -/
theorem isSome_test?_call_iff {name p : String} {ps : List String} {call : Call}
    (hcall : Call.ofName? name = some call) : (Leaf.call name field p ps).test?.isSome = true ↔
      ∀ q ∈ p :: ps, (call.function.pattern? q call.cased).isSome = true := by
  have hliterals : (Form.call call (p :: ps)).literals = (p :: ps).map .text := rfl
  rw [Leaf.isSome_test?_iff (Leaf.parts?_call hcall), hliterals, List.forall_mem_map]
  simp only [Form.operand?, Option.isSome_map, Form.pattern?]

/-- A call seeks what one of its patterns accepts, for which the others do not count. -/
theorem exists_seeks_call {name p : String} {ps others : List String} {call : Call}
    (hcall : Call.ofName? name = some call)
    (h : (Leaf.call name field p ps).test?.isSome = true) :
    ∃ t, (Leaf.call name field p ps).test? = some t ∧ t.Seeks field fun s =>
      ∃ q ∈ p :: ps, (Form.call call others).Accepts (.text q) s := by
  have hl : (Leaf.call name field p ps).parts? = some (field, .call call (p :: ps)) :=
    Leaf.parts?_call hcall
  obtain ⟨t, ht, hseeks⟩ := Leaf.exists_seeks hl rfl ((Leaf.isSome_test?_iff hl).mp h)
  refine ⟨t, ht, fun e => ?_⟩
  rw [hseeks e]
  simp only [Form.literals, List.mem_map, exists_exists_and_eq_and]
  rfl

theorem exists_anyOf_member (hstar : ∀ u, .text u ∈ value :: values → '*' ∉ u.toList) :
    ∃ t c, (Leaf.member field cased value values).test? = some t ∧
      (Derivation.anyOf (.compare field (comparisonOf cased) value)
        (values.map (.compare field (comparisonOf cased)))).condition? = some c ∧
      ∀ e, t.holds e = c.holds e := by
  obtain ⟨t, ht, hseeks⟩ : ∃ t, (Leaf.member field cased value values).test? = some t ∧
      t.Seeks field fun s => ∃ v ∈ value :: values,
        (Form.member cased (value :: values)).Accepts v s := exists_seeks_member
  obtain ⟨c, hc, hholds⟩ := exists_anyOf_of_seeks hseeks fun v hv =>
    exists_seeks_compare fun u hu => hstar u (hu ▸ hv)
  exact ⟨t, c, ht, hc, hholds⟩

theorem exists_anyOf_call {name pattern : String} {patterns : List String}
    (hall : ∀ p ∈ pattern :: patterns, ∃ t, (Leaf.call name field p []).test? = some t) :
    ∃ t c, (Leaf.call name field pattern patterns).test? = some t ∧
      (Derivation.anyOf (.call name field pattern [])
        (patterns.map (.call name field · []))).condition? = some c ∧
      ∀ e, t.holds e = c.holds e := by
  obtain ⟨u, hu⟩ := hall pattern List.mem_cons_self
  obtain ⟨call, hcall, -⟩ := Option.bind_eq_some_iff.mp hu
  have hone : ∀ p ∈ pattern :: patterns, (Leaf.call name field p []).test?.isSome = true :=
    fun p hp => Option.isSome_iff_exists.mpr (hall p hp)
  have hpatterns : ∀ p ∈ pattern :: patterns,
      (call.function.pattern? p call.cased).isSome = true :=
    fun p hp => (isSome_test?_call_iff hcall).mp (hone p hp) p List.mem_cons_self
  obtain ⟨t, ht, hseeks⟩ : ∃ t, (Leaf.call name field pattern patterns).test? = some t ∧
      t.Seeks field fun s => ∃ p ∈ pattern :: patterns,
        (Form.call call []).Accepts (.text p) s :=
    exists_seeks_call hcall ((isSome_test?_call_iff hcall).mpr hpatterns)
  obtain ⟨c, hc, hholds⟩ := exists_anyOf_of_seeks hseeks fun p hp => by
    obtain ⟨u, hu, hone⟩ : ∃ u, (Leaf.call name field p []).test? = some u ∧
        u.Seeks field fun s => ∃ q ∈ [p], (Form.call call []).Accepts (.text q) s :=
      exists_seeks_call hcall (hone p hp)
    exact ⟨u, hu, fun e => by simpa using hone e⟩
  exact ⟨t, c, ht, hc, hholds⟩

theorem exists_similar_option {chosen : String} (hfield : field ≠ "") (hchosen : chosen ≠ "")
    (hdot : '.' ∉ chosen.toList) (hstar : '*' ∉ chosen.toList) :
    ∃ t t', (Leaf.option field chosen hfield hchosen hdot).test? = some t ∧
      (Leaf.compare field .similar (.text chosen)).test? = some t' ∧
      ∀ e, t.holds e = t'.holds e := by
  have hl : (Leaf.option field chosen hfield hchosen hdot).parts? =
      some (field, .option chosen) := rfl
  obtain ⟨t, ht, hseeks⟩ : ∃ t, (Leaf.option field chosen hfield hchosen hdot).test? = some t ∧
      t.Seeks field ((Form.option chosen).Accepts (.text chosen)) :=
    Leaf.exists_seeks_one hl rfl rfl rfl
  obtain ⟨t', ht', hseeks'⟩ : ∃ t',
      (Leaf.compare field (comparisonOf false) (.text chosen)).test? = some t' ∧
      t'.Seeks field ((Form.member false []).Accepts (.text chosen)) := by
    refine exists_seeks_compare fun u hu => ?_
    rwa [← Literal.text.inj hu]
  refine ⟨t, t', ht, ht', fun e => ?_⟩
  rw [Bool.eq_iff_iff, hseeks e, hseeks' e]
  rfl

/-- **Lists and options are short for disjunctions.** A field is `in` a list of literals without
stars if it is equal to one of them, up to case if need be. A call with several patterns that
compile holds if one of the calls with a single pattern does. An option of a field, as it is read
from a text, holds if the field is equal to it up to case. All this for every event, whatever is in
the field. -/
theorem lists_are_disjunctions (field : String) :
    (∀ (cased : Bool) (value : Literal) (values : List Literal),
      (∀ u, .text u ∈ value :: values → '*' ∉ u.toList) →
      ∃ t c, (Leaf.member field cased value values).test? = some t ∧
        (Derivation.anyOf (.compare field (comparisonOf cased) value)
          (values.map (.compare field (comparisonOf cased)))).condition? = some c ∧
        ∀ e, t.holds e = c.holds e) ∧
    (∀ (name pattern : String) (patterns : List String),
      (∀ p ∈ pattern :: patterns, ∃ t, (Leaf.call name field p []).test? = some t) →
      ∃ t c, (Leaf.call name field pattern patterns).test? = some t ∧
        (Derivation.anyOf (.call name field pattern [])
          (patterns.map (.call name field · []))).condition? = some c ∧
        ∀ e, t.holds e = c.holds e) ∧
    ∀ (text : List Char) (ts : List Token) (chosen : String) (hfield : field ≠ "")
      (hchosen : chosen ≠ "") (hdot : '.' ∉ chosen.toList), tokens? text = .ok ts →
      .identifier (field ++ "." ++ chosen) ∈ ts →
      ∃ t t', (Leaf.option field chosen hfield hchosen hdot).test? = some t ∧
        (Leaf.compare field .similar (.text chosen)).test? = some t' ∧
        ∀ e, t.holds e = t'.holds e := by
  refine ⟨fun cased value values => exists_anyOf_member,
    fun name pattern patterns => exists_anyOf_call, ?_⟩
  intro text ts chosen hfield hchosen hdot hts hmem
  have hname := star_notMem_of_isIdentifier (isIdentifier_of_mem_tokens hts hmem)
  simp only [String.toList_append, List.mem_append, not_or] at hname
  exact exists_similar_option hfield hchosen hdot hname.2

/-- A list of a text and a null, two patterns of which one has a star, which stands for itself here,
and an option of a nested field. -/
theorem lists_are_disjunctions_mixed :
    (∃ t c, (Leaf.member "f" false (.text "K") [.null]).test? = some t ∧
      (Derivation.anyOf (.compare "f" .similar (.text "K"))
        [.compare "f" .similar .null]).condition? = some c ∧ ∀ e, t.holds e = c.holds e) ∧
    (∃ t c, (Leaf.call "startsWith~" "f" "a*" ["."]).test? = some t ∧
      (Derivation.anyOf (.call "startsWith~" "f" "a*" [])
        [.call "startsWith~" "f" "." []]).condition? = some c ∧ ∀ e, t.holds e = c.holds e) ∧
    ∃ t t', (Leaf.option "f.g" "on" (by decide) (by decide) (by decide)).test? = some t ∧
      (Leaf.compare "f.g" .similar (.text "on")).test? = some t' ∧
      ∀ e, t.holds e = t'.holds e := by
  obtain ⟨hmember, hcall, -⟩ := lists_are_disjunctions "f"
  obtain ⟨-, -, hoption⟩ := lists_are_disjunctions "f.g"
  refine ⟨hmember false _ _ ?_, hcall _ _ _ ?_,
    hoption "f.g.on".toList [.identifier "f.g.on"] _ _ _ _ ?_ ?_⟩
  · intro u hu
    obtain rfl : u = "K" := by simpa using hu
    decide
  · intro p hp
    rw [← Option.isSome_iff_exists]
    rcases List.mem_pair.mp hp with rfl | rfl <;> decide +kernel
  · rw [← toOption_eq_some]
    decide +kernel
  · exact List.mem_singleton_self _

end Vigil.Query
