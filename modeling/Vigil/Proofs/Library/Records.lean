import Vigil.Proofs.Library.ServiceControlStart
import Vigil.Proofs.ProcessRecord.Reading

/-! # Starts of services in records and in events

The same text can be read as the record of a process and as an event. The record has the texts of
three fields only, and of the stage in the life of a process whether it is a known one; but the
analytic of service starts does not see more than this.

* `find?_toEvent_ofTexts`: the event of a record has the texts that the record is made of;
* `exists_startTests`: the tests of the analytic ask for texts;
* `detectsServiceStart_read?`: the analytic on the record and on the event. -/

namespace Vigil.Library

open Vigil.Query Vigil.Text

variable {text : String} {p : ProcessRecord} {e : Event}

/-! ### Stages -/

theorem ofName_eq_create_iff {s : String} :
    Subtype.ofName s = .create ↔ equalIgnoringAsciiCase s "create" = true := by
  have hcomm : equalIgnoringAsciiCase s "create" = equalIgnoringAsciiCase "create" s :=
    Bool.beq_comm
  rw [hcomm]
  constructor
  · intro h
    rcases hname : Subtype.ofName? s with _ | t
    · rw [Subtype.ofName, hname] at h
      cases h
    · rw [Subtype.ofName, hname] at h
      obtain rfl : t = .create := h
      unfold Subtype.ofName? at hname
      have hfound := List.find?_some hname
      exact hfound
  · intro h
    have hname : Subtype.ofName? s = some .create := List.find?_cons_of_pos h
    rw [Subtype.ofName, hname]
    rfl

/-! ### Events of records -/

/-- The text that a record keeps of a field: the name of a stage is written as the stage is. -/
def keptText (field text : String) : String :=
  if field = ProcessRecord.subtypeField then (Subtype.ofName text).name else text

theorem keptText_eq_id {field : String} (h : field ≠ ProcessRecord.subtypeField) :
    keptText field = id :=
  funext fun _ => if_neg h

theorem find?_toEvent_ofTexts (texts : String → Option String) {field : String}
    (h : field ∈ ProcessRecord.fieldNames) :
    (ProcessRecord.ofTexts texts).toEvent.find? field =
      (texts field).map fun text => .text (keptText field text) := by
  have hmem : (field, (texts field).map (keptText field)) ∈
      (ProcessRecord.ofTexts texts).attributes := by
    simp only [ProcessRecord.fieldNames, List.mem_cons, List.not_mem_nil, or_false] at h
    rcases h with rfl | rfl | rfl
    · have hname : (texts ProcessRecord.subtypeField).map (keptText ProcessRecord.subtypeField) =
          ((texts ProcessRecord.subtypeField).map Subtype.ofName).map Subtype.name := by
        rw [Option.map_map]
        rfl
      rw [hname]
      exact List.mem_cons_self
    · rw [keptText_eq_id (by decide), Option.map_id]
      exact List.mem_cons_of_mem _ List.mem_cons_self
    · rw [keptText_eq_id (by decide), Option.map_id]
      exact List.mem_cons_of_mem _ (List.mem_cons_of_mem _ List.mem_cons_self)
  rw [ProcessRecord.find?_toEvent hmem, Option.map_map]
  rfl

/-! ### Tests -/

/-- The tests of the analytic ask for texts in the three fields, and in that of the stage for
`create`. -/
theorem exists_startTests : ∃ a, serviceControlStart? = some a ∧ a.query.head = some "process" ∧
    ∀ t ∈ a.query.condition.tests, t.form.asksForTexts = true ∧
      t.field ∈ ProcessRecord.fieldNames ∧ (t.field = ProcessRecord.subtypeField →
        t.Asks t.field fun u => equalIgnoringAsciiCase u "create" = true) := by
  obtain ⟨c, hc⟩ := exists_condition
  obtain ⟨a, ha, hhead, rfl⟩ := exists_analytic hc
  refine ⟨a, ha, hhead, fun t ht => ?_⟩
  obtain ⟨l, hl, hparts⟩ := exists_parts_of_mem_tests hc ht
  have hleaves : ∀ l ∈ startDerivation.leaves, ∀ p ∈ l.parts?,
      p.2.asksForTexts = true ∧ p.1 ∈ ProcessRecord.fieldNames ∧
        (p.1 = ProcessRecord.subtypeField → createLeaf.parts? = some p) := by
    decide
  obtain ⟨htexts, hfield, hcreate⟩ := hleaves l hl _ hparts
  refine ⟨htexts, hfield, fun hsubtype => ?_⟩
  obtain ⟨t', ht', hasks⟩ := exists_create
  obtain rfl : t' = t :=
    Option.some.inj (ht'.symm.trans (Leaf.test?_eq_some.mpr (hcreate hsubtype)))
  rwa [hsubtype]

/-! ### Records and events -/

/-- What an event holds under the names of the attributes is found there also when its class has
been set. -/
theorem find?_insert_class {v : Value} {field : String} (h : field ∈ ProcessRecord.fieldNames) :
    (e.insert Event.classField v).find? field = e.fields.lookup field := by
  have hnames : ∀ field ∈ ProcessRecord.fieldNames,
      '.' ∉ field.toList ∧ field ≠ Event.classField := by
    decide
  obtain ⟨hdot, hclass⟩ := hnames field h
  rw [Event.find?_of_no_dot _ hdot, Event.lookup_insert, if_neg hclass]

/-- A test for texts does not tell the record from the event, if there is no sequence in its
field. -/
theorem holds_toEvent_ofTexts {t : Test} {v : Value} (htexts : t.form.asksForTexts = true)
    (hfield : t.field ∈ ProcessRecord.fieldNames)
    (hcreate : t.field = ProcessRecord.subtypeField →
      t.Asks t.field fun u => equalIgnoringAsciiCase u "create" = true)
    (hsequence : ∀ items, e.fields.lookup t.field ≠ some (.sequence items)) :
    t.holds (ProcessRecord.ofTexts fun name => (e.fields.lookup name).bind Value.text?).toEvent =
      t.holds (e.insert Event.classField v) := by
  have hevent := find?_insert_class (e := e) (v := v) hfield
  have hrecord := find?_toEvent_ofTexts
    (fun name => (e.fields.lookup name).bind Value.text?) hfield
  rcases htext : (e.fields.lookup t.field).bind Value.text? with _ | s
  · have hno : ∀ s ∈ (e.insert Event.classField v).scalarsAt t.field, s.text? = none := by
      rcases hvalue : e.fields.lookup t.field with _ | w
      · rw [hvalue] at hevent
        simp [Event.scalarsAt_of_missing hevent]
      · rw [hvalue] at hevent htext
        rw [Event.scalarsAt_of_find? hevent]
        exact fun s hs => Value.text?_of_mem_scalars htext
          (fun items hw => hsequence items (hvalue.trans (congrArg some hw))) hs
    rw [Test.holds_of_no_texts htexts hno]
    rw [htext] at hrecord
    rw [Test.holds, hrecord]
    rfl
  · obtain ⟨w, hvalue, hw⟩ := Option.bind_eq_some_iff.mp htext
    obtain rfl := Value.eq_text_of_text? hw
    rw [hvalue] at hevent
    rw [htext, Option.map_some] at hrecord
    by_cases hstage : t.field = ProcessRecord.subtypeField
    · have hasks := hcreate hstage
      rw [Bool.eq_iff_iff, hasks _ (some _) hrecord, hasks _ (some s) hevent, keptText, if_pos hstage]
      simp [name_equal_create, ofName_eq_create_iff]
    · rw [keptText_eq_id hstage] at hrecord
      exact Test.holds_congr (hrecord.trans hevent.symm)

/-- **Records and events.** Let a text be read as the record of a process and as an event, and let
none of the attributes be an array. Then the analytic detects the start of a service in the record
if and only if it does in the event, when that is given the class of processes. -/
theorem detectsServiceStart_read? (hp : ProcessRecord.read? text = .ok p)
    (he : Event.read? text = .ok e)
    (hsequence : ∀ name ∈ ProcessRecord.fieldNames, ∀ items,
      e.fields.lookup name ≠ some (.sequence items)) :
    detectsServiceStart p = serviceControlStart?.any fun a =>
      a.detects (e.insert Event.classField (.text ProcessRecord.className)) := by
  obtain ⟨a, ha, hhead, htests⟩ := exists_startTests
  have hclass : (e.insert Event.classField (.text ProcessRecord.className)).class? =
      some ProcessRecord.className := by
    rw [Event.class?, Event.lookup_insert, if_pos rfl]
    rfl
  have hholds : a.query.condition.holds p.toEvent = a.query.condition.holds
      (e.insert Event.classField (.text ProcessRecord.className)) := by
    rw [ProcessRecord.read?_eq_ofTexts hp he]
    refine Condition.holds_eq_of_tests fun t ht => ?_
    obtain ⟨htexts, hfield, hcreate⟩ := htests t ht
    exact holds_toEvent_ofTexts htexts hfield hcreate (hsequence t.field hfield)
  rw [detectsServiceStart, ha, Option.any_some, Option.any_some, Analytic.detects,
    Analytic.detects, Query.selects, Query.selects, appliesTo_toEvent hhead,
    appliesTo_iff hhead hclass, hholds]
  rfl

/-- A record without a command line, from a text in which this is a number. -/
theorem detectsServiceStart_read?_number : ∃ e,
    Event.read? ("\x7b\"subtype\": \"Create\", \"process_name\": \"sc.exe\", " ++
      "\"command_line\": 7, \"tags\": [1e3, \"\\ud83d\\ude00\"]\x7d") = .ok e ∧
      detectsServiceStart ⟨some .create, some "sc.exe", none⟩ = serviceControlStart?.any fun a =>
        a.detects (e.insert Event.classField (.text ProcessRecord.className)) := by
  let text : String := "\x7b\"subtype\": \"Create\", \"process_name\": \"sc.exe\", " ++
    "\"command_line\": 7, \"tags\": [1e3, \"\\ud83d\\ude00\"]\x7d"
  have hp : ProcessRecord.read? text = .ok ⟨some .create, some "sc.exe", none⟩ := by
    rw [← toOption_eq_some]
    decide +kernel
  have hread : (Event.read? text).toOption.map (fun e => ProcessRecord.fieldNames.all fun name =>
      (e.fields.lookup name).all fun v => v.text?.isSome || v.equal (.scalar (.int 7))) =
        some true := by
    decide +kernel
  obtain ⟨e, he, hall⟩ := Option.map_eq_some_iff.mp hread
  rw [toOption_eq_some] at he
  refine ⟨e, he, detectsServiceStart_read? hp he fun name hname items hlookup => ?_⟩
  have hsequence := List.all_eq_true.mp hall name hname
  simp [hlookup, Value.text?, Value.equal] at hsequence

end Vigil.Library
