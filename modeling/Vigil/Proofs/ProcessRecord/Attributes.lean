import Vigil.ProcessRecord.Basic
import Vigil.Proofs.Event.Fields

/-! # The event of a process

The fields of the event of a record are the attributes that the record has (`find?_toEvent`), and
its class is `process`. -/

namespace Vigil.ProcessRecord

variable {p : ProcessRecord}

theorem class?_toEvent : p.toEvent.class? = some className := by
  obtain ⟨_ | s, _ | n, _ | c⟩ := p <;> rfl

theorem lookup_toEvent {field : String} {text : Option String} (h : (field, text) ∈ p.attributes) :
    p.toEvent.fields.lookup field = text.map .text := by
  simp only [attributes, List.mem_cons, Prod.mk.injEq, List.not_mem_nil, or_false] at h
  obtain ⟨_ | s, _ | n, _ | c⟩ := p <;>
    rcases h with ⟨rfl, rfl⟩ | ⟨rfl, rfl⟩ | ⟨rfl, rfl⟩ <;> rfl

theorem find?_toEvent {field : String} {text : Option String} (h : (field, text) ∈ p.attributes) :
    p.toEvent.find? field = text.map .text := by
  have hdot : '.' ∉ field.toList := by
    simp only [attributes, List.mem_cons, Prod.mk.injEq, List.not_mem_nil, or_false] at h
    rcases h with ⟨rfl, -⟩ | ⟨rfl, -⟩ | ⟨rfl, -⟩ <;> decide
  rw [Event.find?_of_no_dot _ hdot, lookup_toEvent h]

end Vigil.ProcessRecord
