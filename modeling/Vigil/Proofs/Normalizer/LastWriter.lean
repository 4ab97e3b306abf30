import Vigil.Normalizer.Basic
import Vigil.Proofs.Event.Fields
import Vigil.Proofs.Results

/-! # The last writer of a field

Which value a field has in the common form of an event. Later writers count more: the timestamp,
the class, the mappings of the class, its enums, the mappings for all classes, and last the fields
that the event has itself.

* `lookup_mappedFields`, `lookup_enumFields`: within one group of writers the last that gives a
  value counts;
* `lookup_assignments`: the groups of writers, the later before the earlier;
* `lookup_normalize`: the value of a field in the common form. -/

namespace Vigil

variable {k : String}

/-- What the last of some entries for a field gives, of those that give a value. -/
def lastGiven? {α : Type} (entries : List (String × α)) (value? : α → Option Value) (k : String) :
    Option Value :=
  entries.reverse.findSome? fun (target, a) => if target = k then value? a else none

theorem lookup_filterMap {α : Type} (entries : List (String × α)) (value? : α → Option Value) :
    (entries.filterMap fun (target, a) => (value? a).map fun v => (target, v)).lookup k =
      entries.findSome? fun (target, a) => if target = k then value? a else none := by
  induction entries with
  | nil => rfl
  | cons entry entries ih =>
    obtain ⟨target, a⟩ := entry
    rcases hv : value? a with _ | v
    · simp [hv, ih]
    · by_cases hk : target = k
      · simp [hv, hk]
      · simp [hv, hk, Ne.symm hk, lookup_entry, ih]

theorem lookup_reverse_filterMap {α : Type} (entries : List (String × α))
    (value? : α → Option Value) :
    (entries.filterMap fun (target, a) => (value? a).map fun v => (target, v)).reverse.lookup k =
      lastGiven? entries value? k := by
  rw [lastGiven?, ← lookup_filterMap, List.filterMap_reverse]

theorem lookup_mappedFields (mappings : List (String × Mapping)) (e : Event) :
    (mappedFields mappings e).reverse.lookup k = lastGiven? mappings (fun m => m.value? e) k :=
  lookup_reverse_filterMap mappings fun m => m.value? e

theorem lookup_enumFields (c : EventClass) (e : Event) :
    (c.enumFields e).reverse.lookup k =
      lastGiven? c.enums (fun options => (selectedOption? options e).map .text) k := by
  rw [← lookup_reverse_filterMap]
  simp [EventClass.enumFields, Function.comp_def]

theorem map_text_selectedOption? (options : List (String × Query)) (e : Event) :
    (selectedOption? options e).map .text =
      (options.find? fun (_, condition) => condition.selects e).map fun (name, _) =>
        Value.text name :=
  Option.map_map _ _ _

namespace Normalizer

variable {n : Normalizer} {r out : Event}

/-! ### What a normalizer reads -/

/-- The timestamp that is written: none where none is configured, and else the one that is read
from the event. -/
inductive TimestampOf (n : Normalizer) (r : Event) : Option Value → Prop
  | none (h : n.timestamp = none) : TimestampOf n r none
  | some {t : TimestampSource} {v : Value} (h : n.timestamp = some t)
    (hv : t.read n.name r = .ok v) : TimestampOf n r (some v)

/-- The class of an event: the first that has the name which the event gives, else the first whose
filter holds. -/
def classOf (n : Normalizer) (r : Event) : Option EventClass :=
  (n.classes.find? fun c => r.class? = some c.name).or (n.classes.find? fun c => c.filter.selects r)

/-- What the mappings read: the event, or the record that is the scope, or nothing where the scope
is no record. -/
inductive ScopeOf (n : Normalizer) (r : Event) : Event → Prop
  | whole (h : n.scope = none) : ScopeOf n r r
  | record {scope : String} {fields : Fields} (h : n.scope = some scope)
    (hr : r.find? scope = some (.record fields)) : ScopeOf n r ⟨fields⟩
  | empty {scope : String} (h : n.scope = some scope)
    (hr : ∀ fields, r.find? scope ≠ some (.record fields)) : ScopeOf n r ⟨[]⟩

theorem timestampOf_of_timestamp? {t : Option Value} (h : n.timestamp? r = .ok t) :
    n.TimestampOf r t := by
  unfold timestamp? at h
  split at h
  case h_1 ht =>
    cases h
    exact TimestampOf.none ht
  case h_2 t ht =>
    obtain ⟨v, hv, rfl⟩ := map_eq_ok.mp h
    exact TimestampOf.some ht hv

theorem class?_eq_classOf : n.class? r = n.classOf r := by
  have hnamed : n.namedClass? r = n.classes.find? fun c => r.class? = some c.name := by
    unfold namedClass?
    rcases r.class? with _ | name
    · simp [List.find?_eq_none.mpr]
    · have hname : (fun c : EventClass => c.name == name) =
          fun c => decide (some name = some c.name) := by
        funext c
        rw [Bool.eq_iff_iff, beq_iff_eq, decide_eq_true_iff, Option.some.injEq, eq_comm]
      rw [Option.bind_some, hname]
  unfold class? classOf
  rw [← hnamed]
  rcases n.namedClass? r with _ | c <;> rfl

theorem scopeOf_visible : n.ScopeOf r (n.visible r) := by
  unfold visible
  split
  case h_1 h => exact ScopeOf.whole h
  case h_2 scope h =>
    split
    case h_1 fields hr => exact ScopeOf.record h hr
    case h_2 hr => exact ScopeOf.empty h hr

/-! ### What a normalizer writes -/

/-- The value that is written last to a field: by the mappings of a class, or else its enums, or
else the mappings for all classes. -/
theorem lookup_classAssignments :
    (n.classAssignments r).reverse.lookup k =
      ((n.class? r).bind fun c => lastGiven? c.mappings (fun m => m.value? (n.visible r)) k).or
        ((n.class? r).bind fun c =>
          lastGiven? c.enums (fun options => (selectedOption? options r).map .text) k) := by
  unfold classAssignments
  rcases n.class? r with _ | c
  · rfl
  · rw [List.reverse_append, List.lookup_append, lookup_mappedFields, lookup_enumFields]
    rfl

theorem lookup_base :
    (n.base r).fields.lookup k = if n.strict then none else (n.visible r).fields.lookup k := by
  unfold base
  by_cases hs : n.strict = true
  · rw [if_pos hs, if_pos hs]
    rfl
  · rw [if_neg hs, if_neg hs]

/-- The groups of writers, the later before the earlier. -/
theorem lookup_assignments (t : Option Value) :
    (n.assignments r t).reverse.lookup k =
      (if k = "timestamp" then t else none).or
        ((if k = "event_type" then
            some (.text (((n.class? r).map (·.name)).getD "generic")) else none).or
          (((n.classAssignments r).reverse.lookup k).or
            (lastGiven? n.mappings (fun m => m.value? (n.visible r)) k))) := by
  unfold assignments timestampField Event.classField genericClass
  rw [List.reverse_append, List.reverse_append, List.reverse_append, List.lookup_append,
    List.lookup_append, List.lookup_append, lookup_mappedFields, List.reverse_singleton,
    lookup_entry, List.lookup_nil]
  congr 1
  rcases t with _ | v
  · simp
  · exact lookup_entry

/-- **The last writer counts.** A field of the common form of an event `r` has the value of the
first of these that gives one: the timestamp; the name of the class; the last mapping of the class,
on the scope; the first option that selects `r` in the last enum of the class; the last mapping for
all classes, on the scope; and, unless the normalizer is strict, the field of the scope. -/
theorem lookup_normalize (h : n.normalize r = .ok out) :
    ∃ (t : Option Value) (c : Option EventClass) (S : Event),
      n.TimestampOf r t ∧ c = n.classOf r ∧ n.ScopeOf r S ∧
      ∀ k : String, out.fields.lookup k =
        if k = "timestamp" ∧ t.isSome then t
        else if k = "event_type" then some (.text ((c.map (·.name)).getD "generic"))
        else (c.bind fun c => lastGiven? c.mappings (fun m => m.value? S) k).or <|
          (c.bind fun c => lastGiven? c.enums (fun options =>
            (options.find? fun (_, condition) => condition.selects r).map fun (name, _) =>
              .text name) k).or <|
          (lastGiven? n.mappings (fun m => m.value? S) k).or <|
          if n.strict then none else S.fields.lookup k := by
  obtain ⟨t, ht, hout⟩ := bind_eq_ok.mp h
  cases hout
  refine ⟨t, n.classOf r, n.visible r, timestampOf_of_timestamp? ht, rfl, scopeOf_visible, ?_⟩
  intro k
  have hlookup := Event.lookup_writeAll (k := k) (n.base r) (n.assignments r t)
  rw [lookup_assignments, lookup_classAssignments, lookup_base, class?_eq_classOf] at hlookup
  rw [hlookup]
  simp only [Option.or_assoc, map_text_selectedOption?]
  -- the writers above the mappings of the class write one field each
  by_cases htime : k = "timestamp" ∧ t.isSome
  · obtain ⟨rfl, hsome⟩ := htime
    obtain ⟨v, rfl⟩ := Option.isSome_iff_exists.mp hsome
    simp
  · have hnone : (if k = "timestamp" then t else none) = none := by
      by_cases hk : k = "timestamp"
      · rw [if_pos hk]
        simpa [hk] using htime
      · rw [if_neg hk]
    rw [hnone, if_neg htime, Option.none_or]
    by_cases hclass : k = "event_type"
    · rw [if_pos hclass, if_pos hclass, Option.some_or]
    · rw [if_neg hclass, if_neg hclass, Option.none_or]

/-- A normalizer of which three writers and the scope give a value for one field, and an enum for
another. The first option of this enum holds on the scope, but not on the event. -/
theorem lookup_normalize_collision : ∃ (n : Normalizer) (r out : Event), n.normalize r = .ok out ∧
    out.fields.lookup "a" = some (.text "y") ∧ out.fields.lookup "b" = some (.text "p") := by
  let always : Query := ⟨"true", none, .constant true⟩
  let inScope : Query := ⟨"u.y", none, .test ⟨"u", .option "y", _, rfl⟩⟩
  let c : EventClass :=
    { name := "c", filter := always, mappings := [("a", .field "u"), ("a", .field "z")],
      enums := [("a", [("o", always)]), ("b", [("o", inScope), ("p", always)])] }
  let n : Normalizer :=
    { name := "n", scope := some "s", mappings := [("a", .field "x")], classes := [c] }
  let scope : Fields := [("x", .text "v"), ("u", .text "y"), ("a", .text "b")]
  let r : Event := ⟨[("u", .text "w"), ("s", .record scope)]⟩
  have h : n.normalize r = .ok ⟨[("x", .text "v"), ("u", .text "y"), ("a", .text "y"),
      ("b", .text "p"), ("event_type", .text "c")]⟩ := rfl
  obtain ⟨t, _, S, -, rfl, hS, hk⟩ := lookup_normalize h
  obtain rfl : S = ⟨scope⟩ := by
    cases hS with
    | whole hscope => cases hscope
    | record hscope hr =>
      cases hscope
      cases hr
      rfl
    | empty hscope hr =>
      cases hscope
      exact absurd rfl (hr scope)
  refine ⟨n, r, _, h, (hk "a").trans ?_, (hk "b").trans ?_⟩
  · rw [if_neg (by simp), if_neg (by simp)]
    rfl
  · rw [if_neg (by simp), if_neg (by simp)]
    rfl

end Normalizer

end Vigil
