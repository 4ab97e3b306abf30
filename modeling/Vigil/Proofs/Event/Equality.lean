import Mathlib.Data.List.Forall2
import Mathlib.Data.List.Perm.Subperm
import Mathlib.Data.Option.Defs
import Vigil.Event.Value
import Vigil.Proofs.Lookup
import Vigil.Proofs.Results

/-! # Equality of values

Where the records in values have each name at most once (`UniqueNames`), as those of all events have
(`Event.uniqueNames_of_read?`), sequences are equal item by item and records name by name. Floating
point numbers that are not numbers apart, this makes equality an equivalence.

* `Scalar.equal_symm`, `Scalar.equal_trans`, `Scalar.equal_self_iff`: scalars;
* `equal_sequence_iff`, `equal_record_iff`: sequences and records by their parts;
* `equal_symm`, `equal_trans`, `equal_self_iff`: values of any depth. -/

namespace Vigil

open Vigil.Decimal

/-! ### Scalars -/

namespace Decimal.Binary64

variable {x y z : Binary64}

theorem equal_iff : x.equal y = true ↔
    x.isNaN = false ∧ y.isNaN = false ∧ (x = y ∨ x.isZero = true ∧ y.isZero = true) := by
  obtain ⟨a⟩ := x
  obtain ⟨b⟩ := y
  simp [equal, and_assoc]

theorem equal_symm (h : x.equal y = true) : y.equal x = true := by
  obtain ⟨hx, hy, heq | ⟨hx₀, hy₀⟩⟩ := equal_iff.mp h
  · exact equal_iff.mpr ⟨hy, hx, Or.inl heq.symm⟩
  · exact equal_iff.mpr ⟨hy, hx, Or.inr ⟨hy₀, hx₀⟩⟩

theorem equal_trans (hxy : x.equal y = true) (hyz : y.equal z = true) : x.equal z = true := by
  obtain ⟨hx, -, hxy⟩ := equal_iff.mp hxy
  obtain ⟨-, hz, hyz⟩ := equal_iff.mp hyz
  refine equal_iff.mpr ⟨hx, hz, ?_⟩
  rcases hxy with rfl | ⟨hx₀, hy₀⟩
  · exact hyz
  · rcases hyz with rfl | ⟨-, hz₀⟩
    · exact Or.inr ⟨hx₀, hy₀⟩
    · exact Or.inr ⟨hx₀, hz₀⟩

theorem equal_self_iff : x.equal x = true ↔ x.isNaN = false := by
  rw [equal_iff]
  exact ⟨fun h => h.1, fun h => ⟨h, h, Or.inl rfl⟩⟩

end Decimal.Binary64

namespace Scalar

variable {r s t : Scalar}

/-- Equal scalars are the same, or numbers of double precision that are equal as numbers. -/
theorem eq_of_equal (h : s.equal t = true) :
    s = t ∨ ∃ f g, s = .float f ∧ t = .float g ∧ f.equal g = true := by
  cases s with
  | text a =>
    cases t with
    | text b => exact Or.inl (congrArg Scalar.text (eq_of_beq h))
    | int | unsigned | float | boolean | null => cases h
  | int i =>
    cases t with
    | int j => exact Or.inl (congrArg Scalar.int (eq_of_beq h))
    | text | unsigned | float | boolean | null => cases h
  | unsigned m =>
    cases t with
    | unsigned n => exact Or.inl (congrArg Scalar.unsigned (eq_of_beq h))
    | text | int | float | boolean | null => cases h
  | float f =>
    cases t with
    | float g => exact Or.inr ⟨f, g, rfl, rfl, h⟩
    | text | int | unsigned | boolean | null => cases h
  | boolean a =>
    cases t with
    | boolean b => exact Or.inl (congrArg Scalar.boolean (eq_of_beq h))
    | text | int | unsigned | float | null => cases h
  | null =>
    cases t with
    | null => exact Or.inl rfl
    | text | int | unsigned | float | boolean => cases h

theorem equal_symm (h : s.equal t = true) : t.equal s = true := by
  rcases eq_of_equal h with rfl | ⟨f, g, rfl, rfl, hfg⟩
  · exact h
  · exact Binary64.equal_symm hfg

theorem equal_trans (hrs : r.equal s = true) (hst : s.equal t = true) : r.equal t = true := by
  rcases eq_of_equal hrs with rfl | ⟨f, g, rfl, rfl, hfg⟩
  · exact hst
  · rcases eq_of_equal hst with rfl | ⟨g, h, hg, rfl, hgh⟩
    · exact hrs
    · cases hg
      exact Binary64.equal_trans hfg hgh

theorem equal_self_iff : s.equal s = true ↔ ∀ f, f.isNaN = true → s ≠ .float f := by
  cases s with
  | float f =>
    show f.equal f = true ↔ _
    rw [Binary64.equal_self_iff]
    constructor
    · rintro hf g hg ⟨⟩
      cases hf.symm.trans hg
    · intro h
      rw [Bool.eq_false_iff]
      exact fun hf => h f hf rfl
  | text a | int a | unsigned a | boolean a =>
    exact iff_of_true (beq_self_eq_true a) (by rintro f - ⟨⟩)
  | null => exact iff_of_true rfl (by rintro f - ⟨⟩)

/-- Equal scalars are equal to the same scalars. -/
theorem equal_congr (hst : s.equal t = true) : r.equal s = r.equal t := by
  rw [Bool.eq_iff_iff]
  exact ⟨fun h => equal_trans h hst, fun h => equal_trans h (equal_symm hst)⟩

end Scalar

namespace Value

/-! ### Values -/

/-- Whether each record in a value has each name at most once. -/
inductive UniqueNames : Value → Prop
  | scalar (s : Scalar) : UniqueNames (.scalar s)
  | sequence {items : List Value} (h : ∀ v ∈ items, UniqueNames v) : UniqueNames (.sequence items)
  | record {fields : Fields} (names : (fields.map Prod.fst).Nodup)
    (h : ∀ field ∈ fields, UniqueNames field.2) : UniqueNames (.record fields)

/-- Whether a scalar is somewhere in a value. -/
inductive Contains (s : Scalar) : Value → Prop
  | scalar : Contains s (.scalar s)
  | item {v : Value} {items : List Value} (hv : v ∈ items) (h : Contains s v) :
    Contains s (.sequence items)
  | field {name : String} {v : Value} {fields : Fields} (hv : (name, v) ∈ fields)
    (h : Contains s v) : Contains s (.record fields)

variable {u v w : Value} {vs ws : List Value} {fs gs : Fields} {name : String}

/-- Sequences are equal item by item. -/
theorem equal_sequence_iff : (sequence vs).equal (.sequence ws) = true ↔
    List.Forall₂ (fun v w => v.equal w = true) vs ws := by
  show equalItems vs ws = true ↔ _
  induction vs generalizing ws with
  | nil => cases ws <;> simp [equalItems]
  | cons v vs ih =>
    cases ws with
    | nil => simp [equalItems]
    | cons w ws => rw [equalItems, Bool.and_eq_true, ih, List.forall₂_cons]

theorem equalFields_iff : equalFields fs gs = true ↔
    ∀ field ∈ fs, ∃ w, gs.lookup field.1 = some w ∧ field.2.equal w = true := by
  induction fs with
  | nil => simp [equalFields]
  | cons field fs ih =>
    obtain ⟨name, v⟩ := field
    rw [equalFields, Bool.and_eq_true, ih, List.forall_mem_cons]
    refine and_congr_left fun _ => ?_
    rcases gs.lookup name with _ | w <;> simp

theorem names_subset_of_equalFields (h : equalFields fs gs = true) :
    fs.map Prod.fst ⊆ gs.map Prod.fst := by
  intro name hname
  obtain ⟨field, hfield, rfl⟩ := List.mem_map.mp hname
  obtain ⟨w, hw, -⟩ := equalFields_iff.mp h field hfield
  exact mem_names_iff.mpr ⟨w, hw⟩

/-- Records are equal name by name. -/
theorem equal_record_iff (hfs : (fs.map Prod.fst).Nodup) (hgs : (gs.map Prod.fst).Nodup) :
    (record fs).equal (.record gs) = true ↔
      ∀ name, Option.Rel (fun v w => v.equal w = true) (fs.lookup name) (gs.lookup name) := by
  show (fs.length == gs.length && equalFields fs gs) = true ↔ _
  rw [Bool.and_eq_true, beq_iff_eq]
  constructor
  · rintro ⟨hlength, hfields⟩ name
    rcases hf : fs.lookup name with _ | v
    · -- a name that is not among the one is not among the other, which is no longer
      have hsub : fs.map Prod.fst ⊆ gs.map Prod.fst := names_subset_of_equalFields hfields
      have hperm : (fs.map Prod.fst).Perm (gs.map Prod.fst) :=
        (hfs.subperm hsub).perm_of_length_le (by simp [hlength])
      rcases hg : gs.lookup name with _ | w
      · exact .none
      · obtain ⟨v, hv⟩ := mem_names_iff.mp (hperm.symm.subset (mem_names_iff.mpr ⟨w, hg⟩))
        cases hf.symm.trans hv
    · obtain ⟨w, hw, hvw⟩ := equalFields_iff.mp hfields _ (mem_of_lookup hf)
      rw [hw]
      exact .some hvw
  · intro h
    have hfields : equalFields fs gs = true := by
      refine equalFields_iff.mpr fun field hfield => ?_
      have hrel := h field.1
      rw [lookup_of_mem hfs hfield] at hrel
      rcases hg : gs.lookup field.1 with _ | w
      · rw [hg] at hrel
        cases hrel
      · rw [hg] at hrel
        cases hrel with
        | some hvw => exact ⟨w, rfl, hvw⟩
    have hsub : gs.map Prod.fst ⊆ fs.map Prod.fst := by
      intro name hname
      obtain ⟨w, hw⟩ := mem_names_iff.mp hname
      have hrel := h name
      rw [hw] at hrel
      rcases hf : fs.lookup name with _ | v
      · rw [hf] at hrel
        cases hrel
      · exact mem_names_iff.mpr ⟨v, hf⟩
    have hle := hfs.length_le_of_subset (names_subset_of_equalFields hfields)
    have hge := hgs.length_le_of_subset hsub
    rw [List.length_map, List.length_map] at hle hge
    exact ⟨Nat.le_antisymm hle hge, hfields⟩

theorem UniqueNames.of_lookup (hfs : ∀ field ∈ fs, UniqueNames field.2)
    (h : fs.lookup name = some v) : v.UniqueNames :=
  hfs (name, v) (mem_of_lookup h)

/-- Equality is symmetric. -/
theorem equal_symm (hv : v.UniqueNames) (hw : w.UniqueNames) (h : v.equal w = true) :
    w.equal v = true := by
  induction hv generalizing w with
  | scalar s =>
    cases hw with
    | scalar t => exact Scalar.equal_symm h
    | sequence | record => cases h
  | @sequence vs hvs ih =>
    cases hw with
    | scalar | record => cases h
    | @sequence ws hws =>
      rw [equal_sequence_iff, List.forall₂_iff_get] at h ⊢
      obtain ⟨hlength, hitems⟩ := h
      refine ⟨hlength.symm, fun i hi hi' => ?_⟩
      exact ih _ (List.get_mem vs _) (hws _ (List.get_mem ws _)) (hitems i hi' hi)
  | @record fs names hfs ih =>
    cases hw with
    | scalar | sequence => cases h
    | @record gs names' hgs =>
      rw [equal_record_iff names names'] at h
      rw [equal_record_iff names' names]
      intro name
      refine rel_swap (h name) fun a b ha hb hab => ?_
      exact ih _ (mem_of_lookup ha) (UniqueNames.of_lookup hgs hb) hab

/-- Equality is transitive. -/
theorem equal_trans (hu : u.UniqueNames) (hv : v.UniqueNames) (hw : w.UniqueNames)
    (huv : u.equal v = true) (hvw : v.equal w = true) : u.equal w = true := by
  induction hu generalizing v w with
  | scalar r =>
    cases hv with
    | sequence | record => cases huv
    | scalar s =>
      cases hw with
      | scalar t => exact Scalar.equal_trans huv hvw
      | sequence | record => cases hvw
  | @sequence us hus ih =>
    cases hv with
    | scalar | record => cases huv
    | @sequence vs hvs =>
      cases hw with
      | scalar | record => cases hvw
      | @sequence ws hws =>
        rw [equal_sequence_iff, List.forall₂_iff_get] at huv hvw ⊢
        obtain ⟨hlength, hitems⟩ := huv
        obtain ⟨hlength', hitems'⟩ := hvw
        refine ⟨hlength.trans hlength', fun i hi hi' => ?_⟩
        have hmiddle : i < vs.length := hlength ▸ hi
        exact ih _ (List.get_mem us _) (hvs _ (List.get_mem vs _)) (hws _ (List.get_mem ws _))
          (hitems i hi hmiddle) (hitems' i hmiddle hi')
  | @record fs names hfs ih =>
    cases hv with
    | scalar | sequence => cases huv
    | @record gs names' hgs =>
      cases hw with
      | scalar | sequence => cases hvw
      | @record hs names'' hhs =>
        rw [equal_record_iff names names'] at huv
        rw [equal_record_iff names' names''] at hvw
        rw [equal_record_iff names names'']
        intro name
        refine rel_trans (huv name) (hvw name) fun a b c ha hb hc hab hbc => ?_
        exact ih _ (mem_of_lookup ha) (UniqueNames.of_lookup hgs hb)
          (UniqueNames.of_lookup hhs hc) hab hbc

theorem contains_scalar {s t : Scalar} : Contains s (.scalar t) ↔ t = s := by
  constructor
  · rintro ⟨⟩
    rfl
  · rintro rfl
    exact .scalar

theorem contains_sequence {s : Scalar} : Contains s (.sequence vs) ↔ ∃ v ∈ vs, Contains s v := by
  constructor
  · rintro (_ | ⟨hv, h⟩)
    exact ⟨_, hv, h⟩
  · rintro ⟨v, hv, h⟩
    exact .item hv h

theorem contains_record {s : Scalar} :
    Contains s (.record fs) ↔ ∃ field ∈ fs, Contains s field.2 := by
  constructor
  · rintro (_ | _ | ⟨hv, h⟩)
    exact ⟨_, hv, h⟩
  · rintro ⟨⟨name, v⟩, hv, h⟩
    exact .field hv h

/-- A record is equal to itself if all that is in its fields is. -/
theorem equal_record_self_iff (hfs : (fs.map Prod.fst).Nodup) :
    (record fs).equal (.record fs) = true ↔ ∀ field ∈ fs, field.2.equal field.2 = true := by
  rw [equal_record_iff hfs hfs]
  constructor
  · intro h field hfield
    have hrel := h field.1
    rw [lookup_of_mem hfs hfield, Option.rel_some_some] at hrel
    exact hrel
  · intro h name
    rcases hlookup : fs.lookup name with _ | v
    · exact .none
    · exact .some (h _ (mem_of_lookup hlookup))

/-- A value is equal to itself if every floating point number in it is a number. -/
theorem equal_self_iff (hu : u.UniqueNames) :
    u.equal u = true ↔ ∀ f : Binary64, f.isNaN = true → ¬ u.Contains (.float f) := by
  induction hu with
  | scalar s =>
    show s.equal s = true ↔ _
    simp only [contains_scalar]
    exact Scalar.equal_self_iff
  | sequence hus ih =>
    rw [equal_sequence_iff, List.forall₂_same, forall₂_congr ih]
    simp only [contains_sequence, not_exists, not_and]
    exact ⟨fun h f hf v hv => h v hv f hf, fun h v hv f hf => h f hf v hv⟩
  | record names hfs ih =>
    rw [equal_record_self_iff names, forall₂_congr ih]
    simp only [contains_record, not_exists, not_and]
    exact ⟨fun h f hf v hv => h v hv f hf, fun h v hv f hf => h f hf v hv⟩

end Value

end Vigil
