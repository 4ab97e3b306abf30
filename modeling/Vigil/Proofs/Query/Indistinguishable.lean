import Vigil.Proofs.Event.DottedNames
import Vigil.Proofs.Event.Equality
import Vigil.Proofs.Query.Dependence

/-! # Equal values in queries

Queries do not tell equal values apart: neither do tests, nor do names that lead into records.

* `Value.equal_scalars`: equal values have equal scalars for tests to look at;
* `Event.find?_rel`: events with related fields have related values under dotted names;
* `Query.selects_congr_of_rel`: so they are selected alike;
* `Value.equal_isPartialEquivalence`: equality of values, and what queries see of it. -/

namespace Vigil

open Vigil.Decimal

/-! ### Tests -/

namespace Value

variable {u v w : Value} {vs ws : List Value}

theorem scalarsOf_rel {R : Scalar → Scalar → Prop}
    (h : List.Forall₂ (fun v w => List.Forall₂ R v.scalars w.scalars) vs ws) :
    List.Forall₂ R (scalarsOf vs) (scalarsOf ws) := by
  induction h with
  | nil => exact .nil
  | cons hv _ ih => exact List.rel_append hv ih

/-- Equal values have equal scalars, in the same order. -/
theorem equal_scalars (hv : v.UniqueNames) (h : v.equal w = true) :
    List.Forall₂ (fun s t => s.equal t = true) v.scalars w.scalars := by
  induction hv generalizing w with
  | scalar s =>
    cases w with
    | scalar t => exact .cons h .nil
    | sequence | record => cases h
  | sequence hvs ih =>
    cases w with
    | scalar | record => cases h
    | sequence ws =>
      rw [equal_sequence_iff, List.forall₂_iff_get] at h
      obtain ⟨hlength, hitems⟩ := h
      refine scalarsOf_rel (List.forall₂_iff_get.mpr ⟨hlength, fun i hi hi' => ?_⟩)
      exact ih _ (List.get_mem _ _) (hitems i hi hi')
  | record =>
    cases w with
    | scalar | sequence => cases h
    | record => exact .nil

/-- Whether values are the same, or equal with unique names. -/
inductive Alike : Value → Value → Prop
  | same (v : Value) : Alike v v
  | equal {v w : Value} (hv : v.UniqueNames) (hw : w.UniqueNames) (h : v.equal w = true) :
    Alike v w

theorem Alike.text?_eq (h : Alike v w) : v.text? = w.text? := by
  cases h with
  | same => rfl
  | equal hv hw h =>
    cases v with
    | scalar s =>
      cases w with
      | sequence | record => cases h
      | scalar t =>
        rcases Scalar.eq_of_equal h with rfl | ⟨f, g, rfl, rfl, -⟩ <;> rfl
    | sequence =>
      cases w with
      | scalar | record => cases h
      | sequence => rfl
    | record =>
      cases w with
      | scalar | sequence => cases h
      | record => rfl

/-- What is alike to a record is a record, and what names lead to in them is alike. -/
theorem Alike.exists_record {fs : Fields} (h : Alike (.record fs) w) : ∃ gs, w = .record gs ∧
    ∀ name, Option.Rel Alike (fs.lookup name) (gs.lookup name) := by
  cases h with
  | same =>
    refine ⟨fs, rfl, fun name => ?_⟩
    rcases fs.lookup name with _ | v
    · exact .none
    · exact .some (.same v)
  | equal hv hw h =>
    cases hw with
    | scalar | sequence => cases h
    | @record gs names' hgs =>
      cases hv with
      | record names hfs =>
        refine ⟨gs, rfl, fun name => ?_⟩
        refine rel_imp ((equal_record_iff names names').mp h name) fun a b ha hb hab => ?_
        exact .equal (UniqueNames.of_lookup hfs ha) (UniqueNames.of_lookup hgs hb) hab

theorem Alike.symm (h : Alike v w) : Alike w v := by
  cases h with
  | same => exact .same v
  | equal hv hw h => exact .equal hw hv (equal_symm hv hw h)

/-- Whether a relation leads from records to records with related values under the same names, and
to records from records only. -/
structure KeepsRecords (R : Value → Value → Prop) : Prop where
  of_left : ∀ {fs : Fields} {w : Value}, R (.record fs) w →
    ∃ gs, w = .record gs ∧ ∀ name, Option.Rel R (fs.lookup name) (gs.lookup name)
  of_right : ∀ {v : Value} {gs : Fields}, R v (.record gs) → ∃ fs, v = .record fs

theorem Alike.keepsRecords : KeepsRecords Alike where
  of_left := Alike.exists_record
  of_right h := by
    obtain ⟨fs, hfs, -⟩ := h.symm.exists_record
    exact ⟨fs, hfs⟩

end Value

open Value (Alike)

namespace Query

variable {s t : Scalar} {v w : Value}

theorem Operand.satisfiedBy_eq (o : Operand) (h : s.equal t = true) :
    o.satisfiedBy s = o.satisfiedBy t := by
  cases o with
  | scalar r =>
    unfold satisfiedBy compare
    simp only [Scalar.equal_congr h]
  | pattern p => rcases Scalar.eq_of_equal h with rfl | ⟨f, g, rfl, rfl, -⟩ <;> rfl

theorem any_eq_of_forall₂ {α β : Type} {p : α → Bool} {q : β → Bool} {l : List α} {l' : List β}
    (h : List.Forall₂ (fun a b => p a = q b) l l') : l.any p = l'.any q := by
  induction h with
  | nil => rfl
  | cons hab _ ih => rw [List.any_cons, List.any_cons, hab, ih]

theorem Test.satisfiedBy_eq (t : Test) (h : Alike v w) : t.satisfiedBy v = t.satisfiedBy w := by
  cases h with
  | same => rfl
  | equal hv _ h =>
    rw [t.satisfiedBy_eq_any, t.satisfiedBy_eq_any]
    refine any_eq_of_forall₂ ((Value.equal_scalars hv h).imp fun r s hrs => ?_)
    exact List.any_congr rfl fun o => o.satisfiedBy_eq hrs

end Query

/-! ### Names -/

namespace Event

variable {e e' : Event} {s : String} {segments : List String} {R : Value → Value → Prop}

theorem findIn?_rel (hR : Value.KeepsRecords R)
    (h : ∀ name, Option.Rel R (e.fields.lookup name) (e'.fields.lookup name))
    {field name : String} (hinner : ∀ fs gs : Fields,
      (∀ name, Option.Rel R (fs.lookup name) (gs.lookup name)) →
        Option.Rel R (find? ⟨fs⟩ name) (find? ⟨gs⟩ name)) :
    Option.Rel R (e.findIn? field name) (e'.findIn? field name) := by
  unfold findIn?
  have hrel := h field
  generalize e.fields.lookup field = x, e'.fields.lookup field = y at hrel
  cases hrel with
  | none => exact .none
  | @some v w hvw =>
    cases v with
    | record fs =>
      obtain ⟨gs, rfl, hgs⟩ := hR.of_left hvw
      exact hinner fs gs hgs
    | scalar | sequence =>
      cases w with
      | record gs =>
        obtain ⟨fs, hfs⟩ := hR.of_right hvw
        cases hfs
      | scalar | sequence => exact .none

theorem find?_intercalate_rel (hR : Value.KeepsRecords R)
    (hdots : ∀ s ∈ segments, '.' ∉ s.toList)
    (h : ∀ name, Option.Rel R (e.fields.lookup name) (e'.fields.lookup name)) :
    Option.Rel R (e.find? (".".intercalate segments)) (e'.find? (".".intercalate segments)) := by
  induction segments generalizing e e' with
  | nil =>
    have hempty : '.' ∉ "".toList := by decide
    rw [String.intercalate_nil, find?_of_no_dot e hempty, find?_of_no_dot e' hempty]
    exact h ""
  | cons s segments ih =>
    obtain ⟨hs, hdots⟩ := List.forall_mem_cons.mp hdots
    by_cases hsegments : segments = []
    · rw [hsegments, String.intercalate_singleton, find?_of_no_dot e hs, find?_of_no_dot e' hs]
      exact h s
    · rw [e.find?_intercalate_cons hs hsegments, e'.find?_intercalate_cons hs hsegments]
      exact rel_or (h _) (findIn?_rel hR h fun fs gs hinner => ih hdots hinner)

/-- Events with related fields have related values under dotted names. -/
theorem find?_rel (hR : Value.KeepsRecords R)
    (h : ∀ name, Option.Rel R (e.fields.lookup name) (e'.fields.lookup name)) (name : String) :
    Option.Rel R (e.find? name) (e'.find? name) := by
  rw [← intercalate_segmentsOf name]
  exact find?_intercalate_rel hR (fun s => dot_notMem_of_mem_segmentsOf) h

theorem class?_eq_of_rel
    (h : ∀ name, Option.Rel Alike (e.fields.lookup name) (e'.fields.lookup name)) :
    e.class? = e'.class? := by
  unfold class?
  have hrel := h classField
  generalize e.fields.lookup classField = x, e'.fields.lookup classField = y at hrel
  cases hrel with
  | none => rfl
  | some hvw => exact hvw.text?_eq

theorem lookup_insert_rel (e : Event) (k : String) {v w : Value} (h : Alike v w) (name : String) :
    Option.Rel Alike ((e.insert k v).fields.lookup name) ((e.insert k w).fields.lookup name) := by
  rw [lookup_insert, lookup_insert]
  by_cases hname : name = k
  · rw [if_pos hname, if_pos hname]
    exact .some h
  · rw [if_neg hname, if_neg hname]
    rcases e.fields.lookup name with _ | u
    · exact .none
    · exact .some (.same u)

end Event

/-! ### Queries -/

namespace Query

variable {e e' : Event}

theorem Test.holds_eq_of_rel (t : Test)
    (h : ∀ name, Option.Rel Alike (e.fields.lookup name) (e'.fields.lookup name)) :
    t.holds e = t.holds e' :=
  holds_eq_of_find?_rel rfl rfl (Event.find?_rel Value.Alike.keepsRecords h t.field)
    fun _ _ => t.satisfiedBy_eq

/-- Events with alike fields are selected alike. -/
theorem selects_congr_of_rel (q : Query)
    (h : ∀ name, Option.Rel Alike (e.fields.lookup name) (e'.fields.lookup name)) :
    q.selects e = q.selects e' := by
  have hclass : e.class? = e'.class? := Event.class?_eq_of_rel h
  have hcondition : q.condition.holds e = q.condition.holds e' :=
    Condition.holds_eq_of_tests fun t _ => t.holds_eq_of_rel h
  rw [selects, selects, appliesTo_congr hclass, hcondition]

end Query

namespace Value

/-- **Equality of values.** Where records have each name at most once, equality is symmetric and
transitive, and a value is equal to itself if every floating point number in it is a number. Queries
do not tell equal values apart, whatever name of whatever event they are set for. -/
theorem equal_isPartialEquivalence {u v w : Value} (hu : u.UniqueNames) (hv : v.UniqueNames)
    (hw : w.UniqueNames) :
    (u.equal v = true → v.equal u = true) ∧
    (u.equal v = true → v.equal w = true → u.equal w = true) ∧
    (u.equal u = true ↔ ∀ f : Binary64, f.isNaN = true → ¬ u.Contains (.float f)) ∧
    (u.equal v = true → ∀ (q : Query) (e : Event) (k : String),
      q.selects (e.insert k u) = q.selects (e.insert k v)) := by
  refine ⟨equal_symm hu hv, equal_trans hu hv hw, equal_self_iff hu, fun h q e k => ?_⟩
  exact q.selects_congr_of_rel (e.lookup_insert_rel k (.equal hu hv h))

/-- Two records with their fields in different orders, and zeros of different signs in them. -/
theorem equal_isPartialEquivalence_zeros : ∃ u v : Value, u.UniqueNames ∧ v.UniqueNames ∧
    u.equal v = true ∧ v.equal u = true ∧ u.equal u = true ∧
    (∀ f : Binary64, f.isNaN = true → ¬ u.Contains (.float f)) ∧
    ∀ (q : Query) (e : Event) (k : String), q.selects (e.insert k u) = q.selects (e.insert k v) := by
  let tags : Value := .sequence [.text "x", .scalar .null]
  let u : Value := .record [("a", .scalar (.float ⟨0⟩)), ("b", tags)]
  let v : Value := .record [("b", tags), ("a", .scalar (.float ⟨0x8000000000000000⟩))]
  have htags : tags.UniqueNames := by
    refine .sequence fun w hw => ?_
    rcases List.mem_pair.mp hw with rfl | rfl
    · exact .scalar _
    · exact .scalar _
  have hu : u.UniqueNames := by
    refine .record (by decide) fun field hfield => ?_
    rcases List.mem_pair.mp hfield with rfl | rfl
    · exact .scalar _
    · exact htags
  have hv : v.UniqueNames := by
    refine .record (by decide) fun field hfield => ?_
    rcases List.mem_pair.mp hfield with rfl | rfl
    · exact htags
    · exact .scalar _
  have hequal : u.equal v = true := by decide
  obtain ⟨hsymm, htrans, hself, hselects⟩ := equal_isPartialEquivalence hu hv hu
  have huu : u.equal u = true := htrans hequal (hsymm hequal)
  exact ⟨u, v, hu, hv, hequal, hsymm hequal, huu, hself.mp huu, hselects hequal⟩

end Value

end Vigil
