import Vigil.Proofs.Query.Grammar
import Vigil.Proofs.Results

/-! # The leaves of a tree

The tests of a condition are what the leaves of its syntax tree compile to.

* `Test.ofForm?_eq_ok`, `Leaf.test?_eq_some`: a test is known by its field and its form;
* `Derivation.forall₂_leaves`: the tests of a condition, leaf by leaf;
* `Derivation.mem_tokens_of_mem_leaves`: the tokens of a leaf are tokens of the tree. -/

namespace Vigil.Query

variable {t : Test} {c : Condition}

theorem Test.ofForm?_eq_ok {field : String} {form : Form} :
    Test.ofForm? field form = .ok t ↔ field = t.field ∧ form = t.form := by
  obtain ⟨field', form', operands, hoperands⟩ := t
  unfold Test.ofForm?
  split
  case h_1 operands' hoperands' =>
    simp only [Except.ok.injEq, Test.mk.injEq]
    constructor
    · rintro ⟨rfl, rfl, -⟩
      exact ⟨rfl, rfl⟩
    · rintro ⟨rfl, rfl⟩
      exact ⟨rfl, rfl, Option.some.inj (hoperands'.symm.trans hoperands)⟩
  case h_2 hnone =>
    constructor
    · rintro ⟨⟩
    · rintro ⟨-, rfl⟩
      cases hnone.symm.trans hoperands

namespace Leaf

/-- The field that a leaf tests and the form of the test, missing where its function is unknown. -/
def parts? : Leaf → Option (String × Form)
  | .compare name c value => some (name, .compare c value)
  | .member name cased value values => some (name, .member cased (value :: values))
  | .call name field pattern patterns =>
    (Call.ofName? name).map fun call => (field, .call call (pattern :: patterns))
  | .option field chosen .. => some (field, .option chosen)

theorem test?_eq_some {l : Leaf} : l.test? = some t ↔ l.parts? = some (t.field, t.form) := by
  cases l with
  | call name field pattern patterns =>
    simp only [test?, parts?, Option.bind_eq_some_iff, Option.map_eq_some_iff, toOption_eq_some,
      Test.ofForm?_eq_ok, Prod.mk.injEq]
  | compare | member | option =>
    simp only [test?, parts?, toOption_eq_some, Test.ofForm?_eq_ok, Option.some.injEq,
      Prod.mk.injEq]

/-- A leaf with a field and a form compiles to the test of these. -/
theorem of_test? {l : Leaf} {field : String} {form : Form} (h : l.test? = some t)
    (hl : l.parts? = some (field, form)) :
    t.field = field ∧ t.form = form ∧ form.operands? = some t.operands := by
  rw [test?_eq_some, hl, Option.some.injEq, Prod.mk.injEq] at h
  obtain ⟨rfl, rfl⟩ := h
  exact ⟨rfl, rfl, t.operands_eq⟩

end Leaf

namespace Derivation

/-- The leaves of a tree, from left to right. -/
def leaves {s : Symbol} : Derivation s → List Leaf
  | .alone a => a.leaves
  | .or a e => a.leaves ++ e.leaves
  | .single u => u.leaves
  | .and u a => u.leaves ++ a.leaves
  | .plain p => p.leaves
  | .not u => u.leaves
  | .leaf l => [l]
  | .constant _ => []
  | .brackets e => e.leaves

/-- The tests of a condition are those of the leaves, in the same order. -/
theorem forall₂_leaves {s : Symbol} {d : Derivation s} (h : d.condition? = some c) :
    List.Forall₂ (fun l t => l.test? = some t) d.leaves c.tests := by
  induction d generalizing c with
  | alone a ih => exact ih h
  | single u ih => exact ih h
  | plain p ih => exact ih h
  | brackets e ih => exact ih h
  | or a e iha ihe =>
    obtain ⟨l, r, hl, hr, rfl⟩ := condition?_or_eq_some.mp h
    exact List.rel_append (iha hl) (ihe hr)
  | and u a ihu iha =>
    obtain ⟨l, r, hl, hr, rfl⟩ := condition?_and_eq_some.mp h
    exact List.rel_append (ihu hl) (iha hr)
  | not u ih =>
    obtain ⟨e, he, rfl⟩ := condition?_not_eq_some.mp h
    have htests := ih he
    exact htests
  | leaf l =>
    obtain ⟨t, ht, rfl⟩ := condition?_leaf_eq_some.mp h
    exact List.Forall₂.cons ht List.Forall₂.nil
  | constant b =>
    cases h
    exact List.Forall₂.nil

theorem exists_leaf_of_mem_tests {s : Symbol} {d : Derivation s} (h : d.condition? = some c)
    (ht : t ∈ c.tests) : ∃ l ∈ d.leaves, l.test? = some t := by
  obtain ⟨i, hi, rfl⟩ := List.getElem_of_mem ht
  have hleaves := forall₂_leaves h
  have hlen : i < d.leaves.length := by
    rw [hleaves.length_eq]
    exact hi
  exact ⟨d.leaves[i], List.getElem_mem hlen, hleaves.get hlen hi⟩

theorem mem_tokens_of_mem_leaves {s : Symbol} {d : Derivation s} {l : Leaf} {token : Token}
    (hl : l ∈ d.leaves) (h : token ∈ l.tokens) : token ∈ d.tokens := by
  induction d with
  | alone a ih => exact ih hl
  | single u ih => exact ih hl
  | plain p ih => exact ih hl
  | not u ih => exact List.mem_cons_of_mem _ (ih hl)
  | brackets e ih => exact List.mem_cons_of_mem _ (List.mem_append_left _ (ih hl))
  | or a e iha ihe =>
    rcases List.mem_append.mp hl with hl | hl
    · exact List.mem_append_left _ (iha hl)
    · exact List.mem_append_right _ (List.mem_cons_of_mem _ (ihe hl))
  | and u a ihu iha =>
    rcases List.mem_append.mp hl with hl | hl
    · exact List.mem_append_left _ (ihu hl)
    · exact List.mem_append_right _ (List.mem_cons_of_mem _ (iha hl))
  | leaf l' =>
    obtain rfl := List.mem_singleton.mp hl
    exact h
  | constant b => cases hl

end Derivation

end Vigil.Query
