import Vigil.Proofs.Event.Reading
import Vigil.Proofs.Json.Integers

/-! # Integers in events

The event of an object with one member, an integer as it is written (`integerText`), has the scalar
of this number in its field. Numbers of different kinds are never mixed up: the scalar is an integer
of 64 bits only where it is the integer that was written.

* `ofNumber_eq_int_iff`: when the scalar is an integer of 64 bits;
* `exists_read?_integerText`: what is read;
* `exists_of_read?_integerText`, `exists_event_integerText`: what is in the field, and when it is
  read at all. -/

namespace Vigil

open Vigil.Json

variable {m : Int} {field : String} {e : Event}

/-! ### Scalars -/

/-- An integer whose digits fit is the scalar of an integer of 64 bits only if it is this one. -/
theorem ofNumber_ofWhole_eq_int_iff {i : Int64} (h : m.natAbs < wholeLimit) :
    Scalar.ofNumber (ofWhole (m < 0) m.natAbs) = .int i ↔ i.toInt = m := by
  have hlow : -(2 ^ 63 : Int) ≤ i.toInt := i.le_toInt
  have hhigh : i.toInt < 2 ^ 63 := i.toInt_lt
  have hhalf : Nat.pow 2 63 = 2 ^ 63 := rfl
  unfold ofWhole
  by_cases hm : m < 0
  · have hsize : (m.natAbs : Int) = -m := Int.ofNat_natAbs_of_nonpos (Int.le_of_lt hm)
    simp only [hm, decide_true, Bool.not_true, Bool.false_eq_true, if_false]
    split_ifs with hbound
    · simp only [Scalar.ofNumber, reduceCtorEq, false_iff]
      omega
    · rw [hsize, Int.neg_neg, Scalar.ofNumber, Scalar.int.injEq, ← Int64.toInt_inj,
        Int64.toInt_ofInt_of_le (by omega) (by omega)]
      exact eq_comm
  · have hsize : (m.natAbs : Int) = m := Int.natAbs_of_nonneg (Int.not_lt.mp hm)
    have hwhole : (UInt64.ofNat m.natAbs).toNat = m.natAbs := UInt64.toNat_ofNat_of_lt' h
    simp only [hm, decide_false, Bool.not_false, if_true, Scalar.ofNumber, hwhole]
    split_ifs with hbound
    · rw [Scalar.int.injEq, ← Int64.toInt_inj, Int64.toInt_ofNat_of_lt hbound, hsize]
      exact eq_comm
    · simp only [false_iff]
      omega

/-- So is any integer, whatever it is read as. -/
theorem ofNumber_eq_int_iff {n : JsonNumber} {i : Int64}
    (h : ReadsAs (m < 0) m.natAbs (.ok n)) : Scalar.ofNumber n = .int i ↔ i.toInt = m := by
  have hlow : -(2 ^ 63 : Int) ≤ i.toInt := i.le_toInt
  have hhigh : i.toInt < 2 ^ 63 := i.toInt_lt
  have hlimit : wholeLimit = 2 ^ 64 := rfl
  unfold ReadsAs at h
  split_ifs at h with hlt
  · obtain rfl := Except.ok.inj h
    exact ofNumber_ofWhole_eq_int_iff hlt
  · obtain ⟨f, rfl⟩ := h n rfl
    simp only [Scalar.ofNumber, reduceCtorEq, false_iff]
    omega

/-! ### Events -/

/-- An object with one member, an integer. -/
def integerText (field : String) (m : Int) : String :=
  "\x7b\"" ++ field ++ "\": " ++ toString m ++ "\x7d"

theorem Event.ofJson?_number (field : String) (n : JsonNumber) :
    Event.ofJson? (.ofMembers [(field, .number n)]) =
      .ok ⟨[(field, .scalar (.ofNumber n))]⟩ := by
  have hscalar : Scalar.ofJson? (.number n) = .ok (.ofNumber n) := Scalar.ofNumber?_eq n
  have hmember : Value.ofJson? (.number n) = .ok (.scalar (.ofNumber n)) := by
    rw [Value.ofJson?, hscalar]
    · rfl
    all_goals rintro _ ⟨⟩
  have hmembers : Json.ofMembers [(field, .number n)] = .object [(field, .number n)] := rfl
  rw [hmembers, Event.ofJson?, Value.setMembers?, hmember]
  rfl

/-- The members of an object with one member, an integer, after the brace. -/
theorem exists_members?_integer (hfield : ∀ c ∈ field.toList, IsPlain c) (m : Int)
    (fuel depth : Nat) : ∃ r, members? (fuel + 2) depth true
        ('"' :: (field.toList ++ '"' :: ':' :: ' ' :: ((toString m).toList ++ ['\x7d']))) =
      r.map (fun n => ([(field, .number n)], [])) ∧ ReadsAs (m < 0) m.natAbs r := by
  obtain ⟨r, hr, hreads⟩ :=
    exists_value?_toString m (c := '\x7d') (by decide) fuel depth []
  have hvalue : value? (fuel + 1) depth (' ' :: ((toString m).toList ++ ['\x7d'])) =
      r.map fun n => (.number n, ['\x7d']) := by
    rw [← hr, ← value?_skipBlanks, ← value?_skipBlanks _ _ (_ ++ _)]
    rfl
  have hname {cs : List Char} : nextName? true ('"' :: cs) = .ok (true, cs) := rfl
  have hcolon {cs : List Char} : colon? (':' :: cs) = .ok cs := rfl
  have hend : members? (fuel + 1) depth false ['\x7d'] = .ok ([], []) := rfl
  refine ⟨r, ?_, hreads⟩
  rw [members?]
  simp only [hname, text?_of_isPlain hfield, hcolon, hvalue, bind, Except.bind, if_true,
    String.ofList_toList]
  rcases r with e | n
  · rfl
  · simp only [Except.map, hend]
    rfl

/-- **Integers in events.** The event of an object with one member, an integer, has the scalar of
what the integer is read as, if it is read. -/
theorem exists_read?_integerText (hfield : ∀ c ∈ field.toList, IsPlain c) (m : Int) :
    ∃ r, Event.read? (integerText field m) =
        r.map (fun n => ⟨[(field, .scalar (.ofNumber n))]⟩) ∧ ReadsAs (m < 0) m.natAbs r := by
  let members : List Char :=
    '"' :: (field.toList ++ '"' :: ':' :: ' ' :: ((toString m).toList ++ ['\x7d']))
  have htext : (integerText field m).toList = '\x7b' :: members := by
    simp [integerText, members]
  obtain ⟨r, hr, hreads⟩ := exists_members?_integer hfield m (2 * (members.length + 1) + 1) 1
  have hvalue : value? (fuelOf ('\x7b' :: members)) 0 ('\x7b' :: members) =
      r.map fun n => (.ofMembers [(field, .number n)], []) := by
    have hbrace : value? (fuelOf ('\x7b' :: members)) 0 ('\x7b' :: members) =
        (members? (2 * (members.length + 1) + 3) 1 true members).map fun r =>
          (Json.ofMembers r.1, r.2) := rfl
    rw [hbrace, hr]
    cases r <;> rfl
  have hread : Event.fromJson? 0 ('\x7b' :: members) =
      r.map fun n => (⟨[(field, .scalar (.ofNumber n))]⟩, []) := by
    have hskip : skipBlanks ('\x7b' :: members) = '\x7b' :: members := rfl
    rw [Event.fromJson?, hskip]
    simp only [hvalue, bind, Except.bind]
    rcases r with e | n
    · rfl
    · simp only [Except.map, Event.ofJson?_number]
      rfl
  refine ⟨r, ?_, hreads⟩
  rw [Event.read?, htext, hread]
  cases r <;> rfl

/-- What is in the field is an integer of 64 bits if it is the one that was written. -/
theorem exists_of_read?_integerText (hfield : ∀ c ∈ field.toList, IsPlain c)
    (h : Event.read? (integerText field m) = .ok e) :
    ∃ s, e.find? field = some (.scalar s) ∧ ∀ i, s = .int i ↔ i.toInt = m := by
  obtain ⟨r, hr, hreads⟩ := exists_read?_integerText hfield m
  obtain ⟨n, rfl, rfl⟩ := map_eq_ok.mp (hr.symm.trans h)
  refine ⟨.ofNumber n, Event.find?_of_lookup ?_, fun i => ofNumber_eq_int_iff hreads⟩
  rw [lookup_entry, if_pos rfl]

/-- An integer whose digits fit 64 bits is always read. -/
theorem exists_event_integerText (hfield : ∀ c ∈ field.toList, IsPlain c)
    (hm : m.natAbs < 2 ^ 64) : ∃ e, Event.read? (integerText field m) = .ok e := by
  obtain ⟨r, hr, hreads⟩ := exists_read?_integerText hfield m
  have hfits : m.natAbs < wholeLimit := hm
  rw [ReadsAs, if_pos hfits] at hreads
  rw [hr, hreads]
  exact ⟨_, rfl⟩

end Vigil
