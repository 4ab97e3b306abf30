import Vigil.Event.Basic
import Vigil.Proofs.Lookup

/-! # Writing fields

* `Fields.lookup_insert`, `Fields.mem_insert`, `Fields.nodup_insert`: a field that is set has its
  value, the other fields keep theirs, and names stay unique;
* `Event.lookup_writeAll`: of the values that are written to one field, one after the other, the
  last counts;
* `Event.find?_of_lookup`, `Event.find?_of_lookup_none`: a name is read as it stands, or else at its
  dots;
* `Event.find?_of_no_dot`: a name without dots names a field of the event itself. -/

namespace Vigil

variable {k name : String} {v : Value}

theorem Fields.lookup_insert (fields : Fields) :
    (fields.insert name v).lookup k = if k = name then some v else fields.lookup k := by
  induction fields with
  | nil => exact lookup_entry
  | cons field fields ih =>
    obtain ⟨other, old⟩ := field
    by_cases ho : other = name
    · rw [insert, if_pos ho, lookup_entry, lookup_entry, ho]
      by_cases hk : k = name
      · rw [if_pos hk, if_pos hk]
      · rw [if_neg hk, if_neg hk, if_neg hk]
    · rw [insert, if_neg ho, lookup_entry, lookup_entry, ih]
      by_cases hk : k = other
      · rw [if_pos hk, if_pos hk, if_neg (hk ▸ ho)]
      · rw [if_neg hk, if_neg hk]

/-- A field with a new name is put at the end. -/
theorem Fields.insert_of_not_mem {fields : Fields} (h : name ∉ fields.map Prod.fst) :
    fields.insert name v = fields ++ [(name, v)] := by
  induction fields with
  | nil => rfl
  | cons first fields ih =>
    rw [List.map_cons, List.mem_cons, not_or] at h
    rw [insert, if_neg (Ne.symm h.1), ih h.2, List.cons_append]

theorem Fields.mem_insert {fields : Fields} {field : String × Value}
    (h : field ∈ fields.insert name v) : field = (name, v) ∨ field ∈ fields := by
  induction fields with
  | nil => exact Or.inl (List.mem_singleton.mp h)
  | cons first fields ih =>
    by_cases hname : first.1 = name
    · rw [insert, if_pos hname] at h
      exact (List.mem_cons.mp h).imp_right (List.mem_cons_of_mem first)
    · rw [insert, if_neg hname] at h
      rcases List.mem_cons.mp h with rfl | h
      · exact Or.inr List.mem_cons_self
      · exact (ih h).imp_right (List.mem_cons_of_mem first)

theorem Fields.nodup_insert {fields : Fields} (h : (fields.map Prod.fst).Nodup) (name : String)
    (v : Value) : ((fields.insert name v).map Prod.fst).Nodup := by
  induction fields with
  | nil => simp [insert]
  | cons first fields ih =>
    rw [List.map_cons, List.nodup_cons] at h
    by_cases hname : first.1 = name
    · rw [insert, if_pos hname, List.map_cons, List.nodup_cons, ← hname]
      exact h
    · rw [insert, if_neg hname, List.map_cons, List.nodup_cons]
      refine ⟨fun hmem => ?_, ih h.2⟩
      obtain ⟨field, hfield, hfirst⟩ := List.mem_map.mp hmem
      rcases mem_insert hfield with rfl | hfield
      · exact hname hfirst.symm
      · exact h.1 (List.mem_map.mpr ⟨field, hfield, hfirst⟩)

/-- Only a text has the characters of one. -/
theorem Value.eq_text_of_text? {s : String} (h : v.text? = some s) : v = .text s := by
  cases v with
  | scalar t =>
    cases t with
    | text u =>
      obtain rfl := Option.some.inj h
      rfl
    | int | unsigned | float | boolean | null => cases h
  | sequence | record => cases h

namespace Event

theorem lookup_insert (e : Event) :
    (e.insert name v).fields.lookup k = if k = name then some v else e.fields.lookup k :=
  Fields.lookup_insert e.fields

/-- Writes values to fields of an event, one after the other. -/
abbrev writeAll (e : Event) (writes : Fields) : Event :=
  writes.foldl (fun e (name, v) => e.insert name v) e

theorem lookup_writeAll (e : Event) (writes : Fields) :
    (e.writeAll writes).fields.lookup k = (writes.reverse.lookup k).or (e.fields.lookup k) := by
  induction writes generalizing e with
  | nil => simp
  | cons w writes ih =>
    obtain ⟨name, v⟩ := w
    have hstep : e.writeAll ((name, v) :: writes) = (e.insert name v).writeAll writes := rfl
    rw [hstep, ih, lookup_insert, List.reverse_cons, List.lookup_append, Option.or_assoc,
      lookup_entry]
    by_cases hk : k = name
    · simp [hk]
    · simp [hk]

/-! ### Reading a name -/

theorem lookup_of_find?_none {e : Event} (h : e.find? name = none) : e.fields.lookup name = none := by
  unfold find? at h
  split at h
  · cases h
  · assumption

theorem find?_of_lookup {e : Event} (h : e.fields.lookup name = some v) : e.find? name = some v := by
  rw [find?, h]

theorem find?_of_lookup_none {e : Event} (h : e.fields.lookup name = none) :
    e.find? name = descend e.fields [] name.toList := by
  rw [find?, h]

theorem descend_nil (head cs : List Char) : descend [] head cs = none := by
  induction cs generalizing head with
  | nil => rfl
  | cons c cs ih =>
    by_cases hc : c = '.'
    · rw [descend, if_pos hc]
      rfl
    · rw [descend, if_neg hc]
      exact ih (c :: head)

/-! ### Names without dots -/

theorem descend_of_no_dot {fields : Fields} {head cs : List Char} (h : '.' ∉ cs) :
    descend fields head cs = none := by
  induction cs generalizing head with
  | nil => rfl
  | cons c cs ih =>
    have hc : c ≠ '.' := fun hc => h (hc ▸ List.mem_cons_self)
    rw [descend, if_neg hc]
    exact ih fun hmem => h (List.mem_cons_of_mem c hmem)

theorem find?_of_no_dot (e : Event) (h : '.' ∉ name.toList) :
    e.find? name = e.fields.lookup name := by
  rcases hlookup : e.fields.lookup name with _ | v
  · rw [find?_of_lookup_none hlookup, descend_of_no_dot h]
  · exact find?_of_lookup hlookup

end Event

end Vigil
