import Mathlib.Data.List.Nodup
import Mathlib.Data.List.Sort
import Mathlib.Data.Prod.Lex
import Mathlib.Data.String.Basic
import Vigil.Normalizer.Basic
import Vigil.Proofs.Event.Fields
import Vigil.Proofs.Query.Indistinguishable

/-! # Values, events and errors that are the same

Values are the same if their scalars are, their sequences are item by item, and their records have the
same fields, each name once. The order in which the fields of a record are listed does not count. The
same values are not always equal: a floating point number that is not a number differs from itself.

* `Value.same_record_iff`, `Value.same_of_perm`: records are the same name by name, in any order;
* `Value.Same.scalars_eq`, `Value.Same.text?_eq`: what tests and mappings see of the same values;
* `Value.FieldOrder.Agrees`: orders that show the same fields in the same order, such as that of the
  names (`Value.FieldOrder.sorted_agrees`);
* `Value.Same.describe_eq`: messages show the same values alike in orders that agree;
* `Value.HasOneForm.describe_eq`: the order does not matter where no record has two fields;
* `Event.writeAll_same`: writing the same values to the same fields gives the same events;
* `NormalizationError.Same.message_eq`: the messages of errors that are the same. -/

namespace Vigil

namespace Value

/-- Whether two values are the same, whatever the order of the fields in their records. -/
inductive Same : Value → Value → Prop
  | scalar (s : Scalar) : Same (.scalar s) (.scalar s)
  | sequence {vs ws : List Value} (length : vs.length = ws.length)
    (items : ∀ (i : Nat) (hi : i < vs.length) (hi' : i < ws.length), Same vs[i] ws[i]) :
    Same (.sequence vs) (.sequence ws)
  | record {fs gs : Fields} (names : (fs.map Prod.fst).Nodup) (names' : (gs.map Prod.fst).Nodup)
    (there : ∀ name, (fs.lookup name).isSome = (gs.lookup name).isSome)
    (values : ∀ name v w, fs.lookup name = some v → gs.lookup name = some w → Same v w) :
    Same (.record fs) (.record gs)

variable {v w : Value} {vs ws : List Value} {fs gs : Fields} {order order' : FieldOrder}

theorem same_record_iff : Same (.record fs) (.record gs) ↔
    (fs.map Prod.fst).Nodup ∧ (gs.map Prod.fst).Nodup ∧
      ∀ name, Option.Rel Same (fs.lookup name) (gs.lookup name) := by
  constructor
  · rintro (_ | _ | ⟨names, names', there, values⟩)
    exact ⟨names, names', fun name => rel_of_isSome_eq (there name) (values name)⟩
  · rintro ⟨names, names', h⟩
    refine .record names names' (fun name => isSome_eq_of_rel (h name)) fun name v w hv hw => ?_
    have hrel := h name
    rw [hv, hw, Option.rel_some_some] at hrel
    exact hrel

theorem Same.refl (h : v.UniqueNames) : Same v v := by
  induction h with
  | scalar s => exact .scalar s
  | sequence _ ih => exact .sequence rfl fun i hi _ => ih _ (List.getElem_mem hi)
  | record names _ ih =>
    refine .record names names (fun _ => rfl) fun name v w hv hw => ?_
    obtain rfl := Option.some.inj (hv.symm.trans hw)
    exact ih _ (mem_of_lookup hv)

/-- A record whose fields are listed in another order is the same. -/
theorem same_of_perm (h : fs.Perm gs) (hfs : (record fs).UniqueNames) :
    Same (.record fs) (.record gs) := by
  cases hfs with
  | record names hvalues =>
    have names' : (gs.map Prod.fst).Nodup := (h.map Prod.fst).nodup_iff.mp names
    refine same_record_iff.mpr ⟨names, names', fun name => ?_⟩
    rw [← lookup_eq_of_perm names h]
    rcases hv : fs.lookup name with _ | v
    · exact .none
    · exact .some (.refl (UniqueNames.of_lookup hvalues hv))

theorem Same.keepsRecords : KeepsRecords Same where
  of_left
    | .record names names' there values =>
      ⟨_, rfl, (same_record_iff.mp (.record names names' there values)).2.2⟩
  of_right
    | .record _ _ _ _ => ⟨_, rfl⟩

theorem Same.text?_eq (h : Same v w) : v.text? = w.text? := by
  cases h <;> rfl

theorem Same.scalars_eq (h : Same v w) : v.scalars = w.scalars := by
  induction h with
  | scalar | record => rfl
  | sequence length _ ih =>
    rw [← List.forall₂_eq_eq_eq]
    refine scalarsOf_rel (List.forall₂_iff_get.mpr ⟨length, fun i hi hi' => ?_⟩)
    rw [List.forall₂_eq_eq_eq]
    exact ih i hi hi'

/-! ### In messages -/

theorem describeItems_eq_map : describeItems order vs = vs.map (describe order) := by
  induction vs with
  | nil => rfl
  | cons v vs ih => rw [describeItems, ih, List.map_cons]

theorem describeFields_eq_map :
    describeFields order fs = fs.map fun field => (field.1, field.2.describe order) := by
  induction fs with
  | nil => rfl
  | cons field fs ih => rw [describeFields, ih, List.map_cons]

theorem mem_describeFields_iff (names : (fs.map Prod.fst).Nodup) {name text : String} :
    (name, text) ∈ describeFields order fs ↔
      ∃ v, fs.lookup name = some v ∧ v.describe order = text := by
  rw [describeFields_eq_map, List.mem_map]
  constructor
  · rintro ⟨⟨_, v⟩, hfield, ⟨⟩⟩
    exact ⟨v, lookup_of_mem names hfield, rfl⟩
  · rintro ⟨v, hv, rfl⟩
    exact ⟨(name, v), mem_of_lookup hv, rfl⟩

theorem nodup_describeFields (names : (fs.map Prod.fst).Nodup) :
    (describeFields order fs).Nodup := by
  refine List.Nodup.of_map Prod.fst ?_
  rw [describeFields_eq_map, List.map_map]
  exact names

/-- Whether two orders show the same fields in the same order, however they are listed. -/
def FieldOrder.Agrees (order order' : FieldOrder) : Prop :=
  ∀ fields fields', fields.Perm fields' → order.arrange fields = order'.arrange fields'

/-- Whether a field comes before another by its name, and then by its text. -/
def FieldOrder.precedes (f g : String × String) : Bool := decide (toLex f ≤ toLex g)

/-- The order of the names. -/
def FieldOrder.sorted : FieldOrder :=
  ⟨fun fields => fields.mergeSort precedes, fun fields => List.mergeSort_perm fields precedes⟩

theorem FieldOrder.pairwise_sorted (fields : List (String × String)) :
    (sorted.arrange fields).Pairwise fun f g => precedes f g = true := by
  refine List.pairwise_mergeSort (fun f g k hfg hgk => ?_) (fun f g => ?_) fields
  · exact decide_eq_true ((of_decide_eq_true hfg).trans (of_decide_eq_true hgk))
  · simpa [precedes] using le_total (toLex f) (toLex g)

theorem FieldOrder.sorted_agrees : sorted.Agrees sorted := by
  intro fields fields' h
  have hperm : (sorted.arrange fields).Perm (sorted.arrange fields') :=
    (sorted.perm fields).trans (h.trans (sorted.perm fields').symm)
  refine hperm.eq_of_pairwise (fun f g _ _ hfg hgf => ?_) (pairwise_sorted fields)
    (pairwise_sorted fields')
  exact toLex.injective (le_antisymm (of_decide_eq_true hfg) (of_decide_eq_true hgf))

/-- **Messages on the same values.** They are shown alike in orders that agree. -/
theorem Same.describe_eq (horder : order.Agrees order') (h : Same v w) :
    v.describe order = w.describe order' := by
  induction h with
  | scalar => rw [describe, describe]
  | @sequence vs ws length _ ih =>
    have hitems : vs.map (describe order) = ws.map (describe order') := by
      refine List.ext_getElem (by simpa using length) fun i hi hi' => ?_
      rw [List.getElem_map, List.getElem_map]
      rw [List.length_map] at hi hi'
      exact ih i hi hi'
    rw [describe, describe, describeItems_eq_map, describeItems_eq_map, hitems]
  | @record fs gs names names' there values ih =>
    have hfields : (describeFields order fs).Perm (describeFields order' gs) := by
      rw [List.perm_ext_iff_of_nodup (nodup_describeFields names) (nodup_describeFields names')]
      rintro ⟨name, text⟩
      rw [mem_describeFields_iff names, mem_describeFields_iff names']
      have hrel := rel_of_isSome_eq (there name) (ih name)
      generalize fs.lookup name = x, gs.lookup name = y at hrel
      cases hrel with
      | none => simp
      | some hvw => simp [hvw]
    rw [describe, describe, horder _ _ hfields]

/-- Whether no record in a value has two fields. -/
inductive HasOneForm : Value → Prop
  | scalar (s : Scalar) : HasOneForm (.scalar s)
  | sequence {items : List Value} (h : ∀ v ∈ items, HasOneForm v) : HasOneForm (.sequence items)
  | empty : HasOneForm (.record [])
  | single {name : String} {v : Value} (h : HasOneForm v) : HasOneForm (.record [(name, v)])

/-- The order of fields does not matter where there is one field at most. -/
theorem HasOneForm.describe_eq (h : v.HasOneForm) : v.describe order = v.describe order' := by
  induction h with
  | scalar => rw [describe, describe]
  | sequence _ ih =>
    rw [describe, describe, describeItems_eq_map, describeItems_eq_map, List.map_congr_left ih]
  | empty =>
    rw [describe, describe, describeFields, describeFields, List.perm_nil.mp (order.perm []),
      List.perm_nil.mp (order'.perm [])]
  | single _ ih =>
    rw [describe, describe, describeFields, describeFields, describeFields, describeFields, ih,
      List.perm_singleton.mp (order.perm _), List.perm_singleton.mp (order'.perm _)]

theorem Same.names_perm (h : Same (.record fs) (.record gs)) :
    (fs.map Prod.fst).Perm (gs.map Prod.fst) := by
  obtain ⟨names, names', hfields⟩ := same_record_iff.mp h
  rw [List.perm_ext_iff_of_nodup names names']
  intro name
  rw [mem_names_iff, mem_names_iff, ← Option.isSome_iff_exists, ← Option.isSome_iff_exists,
    isSome_eq_of_rel (hfields name)]

/-- A value with one form is the same as itself only. -/
theorem HasOneForm.eq_of_same (hv : v.HasOneForm) (h : Same v w) : v = w := by
  induction hv generalizing w with
  | scalar s =>
    cases h
    rfl
  | sequence _ ih =>
    cases h with
    | sequence length items =>
      have hitems := List.ext_getElem length fun i hi hi' =>
        ih _ (List.getElem_mem hi) (items i hi hi')
      rw [hitems]
  | empty =>
    cases h with
    | record names names' there values =>
      have hnames := (Same.record names names' there values).names_perm
      rw [List.map_nil, List.nil_perm, List.map_eq_nil_iff] at hnames
      rw [hnames]
  | @single _ v _ ih =>
    cases h with
    | @record _ gs names names' there values =>
      have hnames := (Same.record names names' there values).names_perm
      rw [List.map_cons, List.map_nil, List.singleton_perm] at hnames
      obtain ⟨⟨name, u⟩, rfl, rfl⟩ := List.map_eq_singleton_iff.mp hnames.symm
      have hv : [(name, v)].lookup name = some v := by rw [lookup_entry, if_pos rfl]
      have hu : [(name, u)].lookup name = some u := by rw [lookup_entry, if_pos rfl]
      rw [ih (values name v u hv hu)]

end Value

namespace Event

/-- Whether two events have the same fields. -/
def Same (e e' : Event) : Prop := Value.Same (.record e.fields) (.record e'.fields)

theorem nodup_writeAll {e : Event} (h : (e.fields.map Prod.fst).Nodup) (writes : Fields) :
    ((e.writeAll writes).fields.map Prod.fst).Nodup := by
  induction writes generalizing e with
  | nil => exact h
  | cons w writes ih => exact ih (Fields.nodup_insert h w.1 w.2)

end Event

/-- Whether two entries have one name and the same value. -/
def SameField (f g : String × Value) : Prop := f.1 = g.1 ∧ f.2.Same g.2

theorem lookup_rel_of_sameFields {fs gs : Fields} (h : List.Forall₂ SameField fs gs)
    (name : String) : Option.Rel Value.Same (fs.lookup name) (gs.lookup name) := by
  induction h with
  | nil => exact .none
  | @cons f g fs gs hfg _ ih =>
    obtain ⟨other, v⟩ := f
    obtain ⟨_, w⟩ := g
    obtain ⟨rfl, hvw⟩ := hfg
    rw [lookup_entry, lookup_entry]
    split
    · exact .some hvw
    · exact ih

/-- The same values that are written to the same fields make the same event. -/
theorem Event.writeAll_same {writes writes' : Fields} (h : List.Forall₂ SameField writes writes') :
    (({} : Event).writeAll writes).Same (({} : Event).writeAll writes') := by
  have hnames : ((({} : Event).fields).map Prod.fst).Nodup := List.nodup_nil
  refine Value.same_record_iff.mpr ⟨nodup_writeAll hnames _, nodup_writeAll hnames _, fun name => ?_⟩
  rw [lookup_writeAll, lookup_writeAll]
  exact rel_or (lookup_rel_of_sameFields (List.rel_reverse h) name) .none

/-! ### Errors -/

namespace NormalizationError

/-- Whether two errors are the same: of one kind, about the same text or value. -/
inductive Same : NormalizationError → NormalizationError → Prop
  | missing (field source : String) :
    Same (.missingTimestamp field source) (.missingTimestamp field source)
  | text (s format : String) :
    Same (.invalidTimestamp (.text s) format) (.invalidTimestamp (.text s) format)
  | value {v w : Value} (h : v.Same w) (format : String) :
    Same (.invalidTimestamp (.value v) format) (.invalidTimestamp (.value w) format)

/-- Whether an error does not show a record with two fields. -/
def HasOneForm : NormalizationError → Prop
  | .invalidTimestamp (.value v) _ => v.HasOneForm
  | .invalidTimestamp (.text _) _ => True
  | .missingTimestamp _ _ => True

variable {x y : NormalizationError} {order order' : Value.FieldOrder}

/-- Errors that are the same have the same message in orders that agree, and in any orders if they show
no record with two fields. -/
theorem Same.message_eq (h : x.Same y) (horder : order.Agrees order' ∨ x.HasOneForm) :
    x.message order = y.message order' := by
  unfold message
  cases h with
  | missing => rfl
  | text => rfl
  | value hvw format =>
    dsimp only [Shown.render]
    rcases horder with hagrees | hform
    · rw [hvw.describe_eq hagrees]
    · obtain rfl := hform.eq_of_same hvw
      rw [hform.describe_eq]

end NormalizationError

/-- Whether two outcomes are the same: results that are related, or the same error. -/
inductive SameOutcome {α : Type} (R : α → α → Prop) :
    Except NormalizationError α → Except NormalizationError α → Prop
  | ok {a b : α} (h : R a b) : SameOutcome R (.ok a) (.ok b)
  | error {x y : NormalizationError} (h : x.Same y) : SameOutcome R (.error x) (.error y)

theorem SameOutcome.map {α β : Type} {R : α → α → Prop} {S : β → β → Prop}
    {x y : Except NormalizationError α} {f g : α → β} (h : SameOutcome R x y)
    (hfg : ∀ a b, R a b → S (f a) (g b)) : SameOutcome S (x.map f) (y.map g) := by
  cases h with
  | ok h => exact .ok (hfg _ _ h)
  | error h => exact .error h

/-- The same values are converted to the same timestamps. -/
theorem Value.Same.convert {v w : Value} (h : v.Same w) (t : TimestampSource) :
    SameOutcome Value.Same (t.convert v) (t.convert w) := by
  unfold TimestampSource.convert
  rw [← h.text?_eq]
  split
  · exact .ok h
  · rcases v.text? with _ | text
    · exact .error (.value h t.format)
    · dsimp only
      rcases Timestamp.moment? t.format text with _ | moment
      · exact .error (.text text t.format)
      · dsimp only
        rcases moment.ticks? with _ | ticks
        · exact .error (.value h t.format)
        · exact .ok (.scalar _)

end Vigil
