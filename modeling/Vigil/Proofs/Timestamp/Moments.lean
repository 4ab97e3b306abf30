import Mathlib.Tactic.SplitIfs
import Vigil.Proofs.Results
import Vigil.Proofs.Timestamp.Days
import Vigil.Timestamp.Resolution

/-! # Moments that are read

What is read of a timestamp are numbers that its fields can have, so the moment that it names is one that there
is: its day is a day of its year, and its second one of its day.

* `Item.inRange_of_read?`, `Item.inRange_of_readAll?`: one item, and one after the other;
* `isDay_of_date?`, `bounds_of_time?`: the day and the time;
* `isMoment_of_moment?`: the moment of a text. -/

namespace Vigil

namespace Timestamp

/-! ### Numbers that are read -/

/-- Whether the fields have numbers that they can have. -/
def Readings.InRange (r : Readings) : Prop := ∀ p ∈ r, p.1.allows p.2 = true

section Readings

variable {r : Readings} {f : Field} {n : Int}

theorem Readings.inRange_nil : Readings.InRange [] := by
  intro p hp
  cases hp

theorem Readings.InRange.allows_of_lookup (h : r.InRange) (hf : r.lookup f = some n) :
    f.allows n = true := by
  obtain ⟨before, after, rfl, -⟩ := List.lookup_eq_some_iff.mp hf
  exact h (f, n) (List.mem_append_right before List.mem_cons_self)

theorem Readings.InRange.allows_getD (h : r.InRange) (hn : f.allows n = true) :
    f.allows ((r.lookup f).getD n) = true := by
  rcases hf : r.lookup f with _ | m
  · exact hn
  · exact h.allows_of_lookup hf

theorem Readings.InRange.set? (h : r.InRange) (f : Field) (n : Int) :
    Yields InRange (r.set? f n) := by
  unfold Readings.set?
  split
  case isTrue hallowed =>
    split
    case h_1 => exact yields_some (List.forall_mem_cons.mpr ⟨hallowed, h⟩)
    case h_2 =>
      split_ifs
      · exact yields_some h
      · exact yields_none
  case isFalse => exact yields_none

theorem Readings.InRange.setHour? (h : r.InRange) (n : Int) : Yields InRange (r.setHour? n) :=
  (h.set? .half (n / 12)).bind fun _ h' => h'.set? .hourOfHalf (n % 12)

theorem Readings.InRange.setQuantity? (h : r.InRange) (q : Quantity) (n : Int) :
    Yields InRange (r.setQuantity? q n) := by
  unfold Readings.setQuantity?
  split
  case h_1 f => exact h.set? f n
  case h_2 => exact h.setHour? n
  case h_3 | h_4 =>
    split_ifs
    · exact yields_none
    · exact h.set? _ _
    · exact h.set? _ _
  case h_5 => exact h.set? .weekday (n - 1)

end Readings

namespace Item

variable {r : Readings}

/-- Whether the numbers that have been read are in range, whatever is left. -/
def Keeps (read : Readings × List Char) : Prop := read.1.InRange

theorem keeps_of_yields {x : Option Readings} (h : Yields Readings.InRange x) (rest : List Char) :
    Yields Keeps (x >>= fun r' => pure (r', rest)) :=
  h.bind fun _ h' => yields_some h'

/-- An item sets numbers that are in range, if it sets one at all. -/
theorem keeps_read? (h : r.InRange) (item : Item) (cs : List Char) :
    Yields Keeps (item.read? r cs) := by
  unfold read?
  split
  case h_1 | h_11 =>
    split
    · split_ifs
      · exact yields_some h
      · exact yields_none
    · exact yields_none
  case h_2 | h_9 => exact yields_some h
  case h_3 q => exact yields_bind fun (n, rest) => keeps_of_yields (h.setQuantity? q n) rest
  case h_4 | h_5 | h_6 | h_10 => exact yields_bind fun (n, rest) => keeps_of_yields (h.set? _ n) rest
  case h_7 | h_8 =>
    split
    · exact yields_bind fun (digits, rest) => keeps_of_yields (h.set? _ _) _
    · exact yields_some h

theorem keeps_readAll? (h : r.InRange) (items : List Item) (cs : List Char) :
    Yields Keeps (readAll? items r cs) := by
  induction items generalizing r cs with
  | nil => exact yields_some h
  | cons item items ih => exact (keeps_read? h item cs).bind fun (r', rest) h' => ih h' rest

end Item

theorem inRange_of_readings? {format text : String} {r : Readings}
    (h : readings? format text = some r) : r.InRange := by
  obtain ⟨items, -, h⟩ := Option.bind_eq_some_iff.mp h
  obtain ⟨⟨r', rest⟩, hread, h⟩ := Option.bind_eq_some_iff.mp h
  split at h
  case h_1 heq =>
    cases heq
    cases h
    exact Item.keeps_readAll? Readings.inRange_nil items _ _ hread
  case h_2 => cases h

/-! ### Days and times -/

section Days

variable {y n m : Int} {s t : Nat} {d : Date}

theorem isDay_of_ofOrdinal? (h : Date.ofOrdinal? y n = some d) : d.IsDay := by
  unfold Date.ofOrdinal? at h
  split at h
  case isTrue hbounds =>
    obtain ⟨-, -, hpos, hle⟩ := hbounds
    rw [daysInYear_eq] at hle
    cases h
    exact ⟨by dsimp only; omega, by dsimp only; omega⟩
  case isFalse => cases h

theorem isDay_of_ofMonth? (h : Date.ofMonth? y m n = some d) : d.IsDay := by
  unfold Date.ofMonth? at h
  split_ifs at h
  split at h
  · split_ifs at h
    exact isDay_of_ofOrdinal? h
  · cases h

theorem isDay_of_ofWeek? (h : Date.ofWeek? y n s t = some d) : d.IsDay := isDay_of_ofOrdinal? h

theorem isDay_of_ofIsoWeek? (h : Date.ofIsoWeek? y n m = some d) : d.IsDay := by
  unfold Date.ofIsoWeek? at h
  dsimp only at h
  split_ifs at h
  exact isDay_of_ofOrdinal? h

end Days

namespace Readings

variable {r r' : Readings} {d : Date} {m : Moment} {n : Int} {second nanosecond : Nat}

/-- Each way to name a day names one that there is. -/
theorem isDay_of_mem_candidates {year isoYear : Option Int}
    (h : some (some d) ∈ r.candidates year isoYear) : d.IsDay := by
  simp only [candidates, List.mem_cons, List.not_mem_nil, or_false] at h
  rcases h with h | h | h | h | h
  · obtain ⟨y, -, h⟩ := Option.bind_eq_some_iff.mp h.symm
    obtain ⟨month, -, h⟩ := Option.bind_eq_some_iff.mp h
    obtain ⟨day, -, h⟩ := Option.bind_eq_some_iff.mp h
    exact isDay_of_ofMonth? (Option.some.inj h)
  · obtain ⟨y, -, h⟩ := Option.bind_eq_some_iff.mp h.symm
    obtain ⟨ordinal, -, h⟩ := Option.bind_eq_some_iff.mp h
    exact isDay_of_ofOrdinal? (Option.some.inj h)
  · obtain ⟨y, -, h⟩ := Option.bind_eq_some_iff.mp h.symm
    obtain ⟨week, -, h⟩ := Option.bind_eq_some_iff.mp h
    obtain ⟨weekday, -, h⟩ := Option.bind_eq_some_iff.mp h
    exact isDay_of_ofWeek? (Option.some.inj h)
  · obtain ⟨y, -, h⟩ := Option.bind_eq_some_iff.mp h.symm
    obtain ⟨week, -, h⟩ := Option.bind_eq_some_iff.mp h
    obtain ⟨weekday, -, h⟩ := Option.bind_eq_some_iff.mp h
    exact isDay_of_ofWeek? (Option.some.inj h)
  · obtain ⟨y, -, h⟩ := Option.bind_eq_some_iff.mp h.symm
    obtain ⟨week, -, h⟩ := Option.bind_eq_some_iff.mp h
    obtain ⟨weekday, -, h⟩ := Option.bind_eq_some_iff.mp h
    exact isDay_of_ofIsoWeek? (Option.some.inj h)

theorem isDay_of_date? (h : r.date? = .ok d) : d.IsDay := by
  obtain ⟨year, -, h⟩ := bind_eq_ok.mp h
  obtain ⟨isoYear, -, h⟩ := bind_eq_ok.mp h
  split at h
  case h_1 | h_2 => cases h
  case h_3 d' hfound =>
    split_ifs at h
    cases h
    obtain ⟨o, hmem, rfl⟩ := List.exists_of_findSome?_eq_some hfound
    exact isDay_of_mem_candidates hmem

theorem bounds_of_time? (hr : r.InRange) (h : r.time? = some (second, nanosecond)) :
    second < 86400 ∧ nanosecond < 2000000000 := by
  obtain ⟨half, hhalf, h⟩ := Option.bind_eq_some_iff.mp h
  obtain ⟨hourOfHalf, hhour, h⟩ := Option.bind_eq_some_iff.mp h
  obtain ⟨minute, hminute, h⟩ := Option.bind_eq_some_iff.mp h
  have hhalf := hr.allows_of_lookup hhalf
  have hhour := hr.allows_of_lookup hhour
  have hminute := hr.allows_of_lookup hminute
  have hsecond : Field.second.allows ((r.lookup .second).getD 0) = true := hr.allows_getD rfl
  have hnanosecond : Field.nanosecond.allows ((r.lookup .nanosecond).getD 0) = true :=
    hr.allows_getD rfl
  simp only [Field.allows, Bool.and_eq_true, decide_eq_true_eq]
    at hhalf hhour hminute hsecond hnanosecond
  split at h
  case h_1 => cases h
  case h_2 =>
    cases h
    refine ⟨by omega, ?_⟩
    split_ifs
    · omega
    · omega

theorem InRange.setSecondOf? (h : r.InRange) (n : Int) : Yields InRange (r.setSecondOf? n) := by
  unfold Readings.setSecondOf?
  split_ifs
  · exact yields_some h
  · exact h.set? .second (n % 60)

theorem InRange.setMinuteOf? (h : r.InRange) (d : Date) (n : Int) :
    Yields InRange (r.setMinuteOf? d n) :=
  (h.set? .year d.year).bind fun _ h =>
    (h.set? .ordinal d.ordinal).bind fun _ h =>
      (h.setHour? (n % 86400 / 3600)).bind fun _ h => h.set? .minute (n % 3600 / 60)

theorem InRange.complete? (h : r.InRange) (n : Int) : Yields InRange (r.complete? n) :=
  yields_bind fun _ => yields_bind fun seconds => yields_bind fun d =>
    (h.setSecondOf? seconds).bind fun _ h => h.setMinuteOf? d seconds

theorem isMoment_of_parts (hr : r.InRange) (hd : r.date? = .ok d)
    (ht : r.time? = some (second, nanosecond)) : Moment.IsMoment ⟨d, second, nanosecond⟩ := by
  obtain ⟨hsecond, hnanosecond⟩ := bounds_of_time? hr ht
  exact ⟨isDay_of_date? hd, hsecond, hnanosecond⟩

theorem isMoment_of_moment? (hr : r.InRange) (h : r.moment? = some m) : m.IsMoment := by
  unfold Readings.moment? at h
  split at h
  case h_1 d second nanosecond hd ht =>
    dsimp only at h
    split_ifs at h
    cases h
    exact isMoment_of_parts hr hd ht
  case h_2 => cases h
  case h_3 =>
    -- the count of seconds since 1970 stands in for what is missing
    obtain ⟨seconds, -, h⟩ := Option.bind_eq_some_iff.mp h
    obtain ⟨r', hcomplete, h⟩ := Option.bind_eq_some_iff.mp h
    obtain ⟨d, hd, h⟩ := Option.bind_eq_some_iff.mp h
    obtain ⟨⟨second, nanosecond⟩, ht, h⟩ := Option.bind_eq_some_iff.mp h
    cases h
    exact isMoment_of_parts (hr.complete? seconds r' hcomplete) (toOption_eq_some.mp hd) ht

end Readings

/-- **Moments.** A text that can be read by a format names a moment that there is. -/
theorem isMoment_of_moment? {format text : String} {m : Moment} (h : moment? format text = some m) :
    m.IsMoment := by
  obtain ⟨r, hr, h⟩ := Option.bind_eq_some_iff.mp h
  exact Readings.isMoment_of_moment? (inRange_of_readings? hr) h

end Timestamp

end Vigil
