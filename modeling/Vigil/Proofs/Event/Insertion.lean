import Vigil.Proofs.Event.DottedNames

/-! # Setting a field, as names with dots see it

A field that is set is found by its name, whatever records the dots of the name lead to otherwise.
Every other name is found where it was, or goes on with a dot after the name that is set. A name that
has a dot itself is never the first segment of another.

* `find?_insert_self`, `find?_insert_of_ne`: the name that is set, and the names that are found where
  they were;
* `find?_insert_dotted`: where the names that go on after it are found;
* `find?_insert_local`: all of these. -/

namespace Vigil

/-- What a name leads to in a value, which has to be a record. -/
def Value.find? : Value → String → Option Value
  | .record fields, name => Event.find? ⟨fields⟩ name
  | .scalar _, _ => none
  | .sequence _, _ => none

namespace Event

variable {k name tail : String} {v w : Value}

theorem findIn?_of_lookup {e : Event} (h : e.fields.lookup k = some w) :
    e.findIn? k tail = w.find? tail := by
  rw [findIn?, h]
  cases w <;> rfl

theorem find?_insert_self (e : Event) : (e.insert k v).find? k = some v := by
  apply find?_of_lookup
  rw [lookup_insert, if_pos rfl]

theorem ne_of_dotted : k ++ "." ++ tail ≠ k := by
  intro h
  have hlength := congrArg String.length h
  have hdot : ".".length = 1 := rfl
  rw [String.length_append, String.length_append, hdot] at hlength
  omega

/-- The first segment of a name is the name that is set only if this has no dot and the name goes on
after it. -/
theorem find?_insert_of_ne (e : Event) (hne : name ≠ k)
    (h : '.' ∈ k.toList ∨ ∀ tail, name ≠ k ++ "." ++ tail) :
    (e.insert k v).find? name = e.find? name := by
  have hlookup : (e.insert k v).fields.lookup name = e.fields.lookup name := by
    rw [lookup_insert, if_neg hne]
  rcases hsplit : splitAtFirstDot name with _ | ⟨head, tail⟩
  · have hdot := splitAtFirstDot_eq_none hsplit
    rw [find?_of_no_dot _ hdot, find?_of_no_dot _ hdot, hlookup]
  · obtain ⟨rfl, hhead⟩ := splitAtFirstDot_eq_some hsplit
    have hfirst : head ≠ k := by
      rintro rfl
      rcases h with h | h
      · exact hhead h
      · exact h tail rfl
    rw [find?_dotted _ hhead, find?_dotted _ hhead, hlookup, findIn?, findIn?, lookup_insert,
      if_neg hfirst]

/-- A name that goes on after the one that is set is found as it stands, or else in the value. -/
theorem find?_insert_dotted (e : Event) (hk : '.' ∉ k.toList) (tail : String) :
    (e.insert k v).find? (k ++ "." ++ tail) =
      (e.fields.lookup (k ++ "." ++ tail)).or (v.find? tail) := by
  have hset : (e.insert k v).fields.lookup k = some v := by
    rw [lookup_insert, if_pos rfl]
  rw [find?_dotted _ hk, findIn?_of_lookup hset, lookup_insert, if_neg ne_of_dotted]

/-- **Setting a field.** Its name, with or without dots, is found to be the value that is set. Any
other name is found as before, unless the name that is set has no dot and the other goes on after it
with a dot; so setting a name with a dot leaves all others alone. A name that goes on after it is
found as it stands in the event, if it is there, and else in the value that is set. -/
theorem find?_insert_local (e : Event) (k : String) (v : Value) :
    (e.insert k v).find? k = some v ∧
    (∀ name, name ≠ k → ¬('.' ∉ k.toList ∧ ∃ tail, name = k ++ "." ++ tail) →
      (e.insert k v).find? name = e.find? name) ∧
    ('.' ∈ k.toList → ∀ name, name ≠ k → (e.insert k v).find? name = e.find? name) ∧
    ('.' ∉ k.toList → ∀ tail, (e.insert k v).find? (k ++ "." ++ tail) =
      (e.fields.lookup (k ++ "." ++ tail)).or (v.find? tail)) := by
  refine ⟨find?_insert_self e, fun name hne h => ?_, fun hk name hne => ?_, find?_insert_dotted e⟩
  · rw [not_and_or, not_not, not_exists] at h
    exact find?_insert_of_ne e hne h
  · exact find?_insert_of_ne e hne (Or.inl hk)

/-- A nested field that is set by its whole name, and the record around it that is set. -/
theorem find?_insert_local_nested : ∃ e : Event,
    e.find? "a.b" = some (.text "old") ∧
    (e.insert "a.b" (.text "new")).find? "a.b" = some (.text "new") ∧
    (e.insert "a.b" (.text "new")).find? "a" = e.find? "a" ∧
    (e.insert "a" (.record [("c", .text "new")])).find? "a.b" = none ∧
    (e.insert "a" (.record [("c", .text "new")])).find? "a.c" = some (.text "new") ∧
    (e.insert "a" (.record [("c", .text "new")])).find? "ab.c" = e.find? "ab.c" := by
  let e : Event := ⟨[("a", .record [("b", .text "old")])]⟩
  obtain ⟨hself, -, hdotted, -⟩ := find?_insert_local e "a.b" (.text "new")
  obtain ⟨-, hother, -, hbelow⟩ := find?_insert_local e "a" (.record [("c", .text "new")])
  have hnot : ¬('.' ∉ "a".toList ∧ ∃ tail, "ab.c" = "a" ++ "." ++ tail) := by
    rintro ⟨-, tail, h⟩
    simpa using congrArg String.toList h
  refine ⟨e, rfl, hself, hdotted (by decide) "a" (by decide), ?_, ?_, hother _ (by decide) hnot⟩
  · exact (hbelow (by decide) "b").trans rfl
  · exact (hbelow (by decide) "c").trans rfl

end Event

end Vigil
