import Vigil.Proofs.Query.Alternatives
import Vigil.Proofs.Query.Heads

/-! # Queries of one comparison

A query that compares a field with literals selects the events that its test holds of, whatever the
literals are written as.

* `exists_query_of_leaf`: a query of one leaf;
* `exists_query_equal`, `exists_query_unequal`, `exists_query_member`: what the queries seek that
  compare a field with a literal, or with several. -/

namespace Vigil.Query

open Vigil.Text

variable {α : Type} {field w : String} {value : Literal} {t : Test}

/-- A text that spells a leaf is read as a query, if the leaf compiles, which selects the events of
which its test holds. -/
theorem exists_query_of_leaf {text : String} {l : Leaf} (hl : Spells text.toList l.tokens)
    (ht : l.test? = some t) :
    ∃ q, readCondition? text = .ok q ∧ ∀ e, q.selects e = t.holds e := by
  obtain ⟨name, rest, hname⟩ := l.exists_tokens_eq
  have hne : l.tokens ≠ [] := by simp [hname]
  have hleaf : Derives .primary l.tokens (.test t) :=
    ⟨.leaf l, rfl, by simp [Derivation.condition?, ht]⟩
  refine ⟨⟨String.ofList (trim text.toList), none, .test t⟩, ?_, fun e => rfl⟩
  rw [readCondition?_of_tokens (tokens?_of_spells hl) hne,
    condition?_of_derives hleaf.plain.single.alone]
  rfl

/-- A test that a field is unequal to a literal holds where the field is there and not equal to
it. -/
theorem exists_test_unequal (ht : (Leaf.compare field .equal value).test? = some t) :
    ∃ t', (Leaf.compare field .unequal value).test? = some t' ∧
      ∀ e v, e.find? field = some v → t'.holds e = !t.holds e := by
  obtain ⟨rfl, hform, hoperands⟩ := Leaf.of_test? ht rfl
  have hsame : (Form.compare .unequal value).operands? = some t.operands := hoperands
  let t' : Test := ⟨t.field, .compare .unequal value, t.operands, hsame⟩
  refine ⟨t', Leaf.test?_eq_some.mpr rfl, fun e v hv => ?_⟩
  have hnegated : t.form.isNegated = false := by rw [hform]; rfl
  have hholds : t'.holds e = (t'.satisfiedBy v != true) := Test.holds_of_find? hv
  have hsatisfied : t'.satisfiedBy v = t.satisfiedBy v := Test.satisfiedBy_congr (by rfl) v
  rw [hholds, Test.holds_of_find? hv, hnegated, hsatisfied]
  cases t.satisfiedBy v <;> rfl

/-- A comparison with a literal without a star seeks what the literal accepts by itself. -/
theorem exists_query_equal (hfield : IsIdentifier field) (hw : Spells w.toList [.literal value])
    (hstar : ∀ u, value = .text u → '*' ∉ u.toList) : ∃ (q : Query) (t : Test),
      readCondition? (field ++ " == " ++ w) = .ok q ∧
        (Leaf.compare field .equal value).test? = some t ∧
        t.Seeks field ((Form.member true []).Accepts value) ∧ ∀ e, q.selects e = t.holds e := by
  obtain ⟨t, ht, hseeks⟩ : ∃ t, (Leaf.compare field (comparisonOf true) value).test? = some t ∧
      t.Seeks field ((Form.member true []).Accepts value) := exists_seeks_compare hstar
  have hspells := spells_compare .equal hfield hw
  have hsign : field ++ " " ++ Comparison.equal.sign ++ " " = field ++ " == " := by
    simp [Comparison.sign, String.append_assoc]
  obtain ⟨q, hq, hselects⟩ := exists_query_of_leaf hspells ht
  exact ⟨q, t, hsign ▸ hq, ht, hseeks, hselects⟩

/-- With `!=` a query selects, of the events that have the field, those that it does not select with
`==`. -/
theorem exists_query_unequal (hfield : IsIdentifier field) (hw : Spells w.toList [.literal value])
    (ht : (Leaf.compare field .equal value).test? = some t) :
    ∃ q, readCondition? (field ++ " != " ++ w) = .ok q ∧
      ∀ e v, e.find? field = some v → q.selects e = !t.holds e := by
  obtain ⟨t', ht', hholds⟩ := exists_test_unequal ht
  have hspells := spells_compare .unequal hfield hw
  have hsign : field ++ " " ++ Comparison.unequal.sign ++ " " = field ++ " != " := by
    simp [Comparison.sign, String.append_assoc]
  obtain ⟨q, hq, hselects⟩ := exists_query_of_leaf hspells ht'
  exact ⟨q, hsign ▸ hq, fun e v hv => (hselects e).trans (hholds e v hv)⟩

/-- A list of literals seeks what one of them accepts. -/
theorem exists_query_member {a : α} {as : List α} {w : α → String} {v : α → Literal}
    (hfield : IsIdentifier field) (hw : ∀ b ∈ a :: as, Spells (w b).toList [.literal (v b)]) :
    ∃ (q : Query) (t : Test),
      readCondition? (field ++ " in (" ++ ", ".intercalate ((a :: as).map w) ++ ")") = .ok q ∧
        t.Seeks field (fun s => ∃ b ∈ a :: as, (Form.member true []).Accepts (v b) s) ∧
        ∀ e, q.selects e = t.holds e := by
  obtain ⟨t, ht, hseeks⟩ : ∃ t, (Leaf.member field true (v a) (as.map v)).test? = some t ∧
      t.Seeks field fun s => ∃ u ∈ v a :: as.map v,
        (Form.member true (v a :: as.map v)).Accepts u s := exists_seeks_member
  have hspells := spells_member true hfield hw
  have hword : field ++ " " ++ memberWord true ++ " (" = field ++ " in (" := by
    simp [memberWord, String.append_assoc]
  obtain ⟨q, hq, hselects⟩ := exists_query_of_leaf hspells ht
  refine ⟨q, t, hword ▸ hq, fun e => ?_, hselects⟩
  rw [hseeks e, ← List.map_cons]
  simp only [List.mem_map, exists_exists_and_eq_and]
  exact exists_congr fun s => and_congr_right fun _ => exists_congr fun b =>
    and_congr_right fun _ => Form.accepts_congr fun u _ => rfl

end Vigil.Query
