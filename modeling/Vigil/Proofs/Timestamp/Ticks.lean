import Mathlib.Tactic.SplitIfs
import Vigil.Proofs.Int64
import Vigil.Proofs.Timestamp.Days
import Vigil.Timestamp.Ticks

/-! # Ticks up to moments

The ticks up to a moment are counted exactly, or not at all. Later moments have no fewer ticks, unless the
earlier one is in a leap second: this goes on while the second after it begins.

* `int64?_eq_some`, `int64?_eq_none`: numbers that fit 64 bits;
* `Moment.ticks?_eq_some`, `Moment.ticks?_eq_none`: both checks together are one on the ticks;
* `Moment.isTicks_iff`: the ticks are ten times the microseconds by the days to the moment, its second
  and its fraction (`Moment.IsTicks`);
* `Moment.nanoseconds_le_iff`: the order of moments and the nanoseconds up to them;
* `Moment.ticks_le`, `Moment.ticks_lt`: the ticks up to them. -/

namespace Vigil

variable {n : Int} {i : Int64}

theorem int64?_eq_some : int64? n = some i ↔ i.toInt = n := by
  unfold int64?
  split
  case isTrue h =>
    have hn : (Int64.ofInt n).toInt = n := FitsInt64.toInt_ofInt h
    rw [Option.some_inj]
    constructor
    · rintro rfl
      exact hn
    · intro hi
      rw [← hi, Int64.ofInt_toInt]
  case isFalse h =>
    constructor
    · rintro ⟨⟩
    · rintro rfl
      exact absurd (fitsInt64_toInt i) h

theorem int64?_eq_none : int64? n = none ↔ ¬ FitsInt64 n := by
  unfold int64?
  split
  case isTrue h =>
    constructor
    · rintro ⟨⟩
    · intro hn
      exact absurd h hn
  case isFalse h => exact iff_of_true rfl h

namespace Moment

variable {m m' : Moment}

/-! ### How many ticks -/

/-- The ticks up to a moment are counted without an error. -/
theorem ticks?_eq_some : m.ticks? = some i ↔ i.toInt = m.ticks := by
  unfold ticks? microseconds? ticks ticksPerMicrosecond
  rw [Option.bind_eq_some_iff]
  constructor
  · rintro ⟨k, hk, hi⟩
    rw [int64?_eq_some] at hk hi
    rw [hi, hk]
  · intro hi
    have hlow := i.le_toInt
    have hhigh := i.toInt_lt
    have hfits : FitsInt64 m.microseconds := ⟨by omega, by omega⟩
    obtain ⟨k, hk⟩ : ∃ k, int64? m.microseconds = some k := by
      rw [← Option.isSome_iff_exists, Option.isSome_iff_ne_none]
      exact fun hnone => int64?_eq_none.mp hnone hfits
    refine ⟨k, hk, int64?_eq_some.mpr ?_⟩
    rw [hi, int64?_eq_some.mp hk]

/-- The ticks up to a moment are not counted if their number does not fit. -/
theorem ticks?_eq_none : m.ticks? = none ↔ ¬ FitsInt64 m.ticks := by
  constructor
  · intro hnone hfits
    have hsome : m.ticks? = some (Int64.ofInt m.ticks) :=
      ticks?_eq_some.mpr hfits.toInt_ofInt
    rw [hnone] at hsome
    cases hsome
  · intro hfits
    rcases hticks : m.ticks? with _ | i
    · rfl
    · have hi := ticks?_eq_some.mp hticks
      exact absurd (hi ▸ fitsInt64_toInt i) hfits

/-- Whether a number is ten times that of the microseconds from the beginning of 1601 to a moment, where
a fraction of a microsecond does not count. -/
inductive IsTicks (m : Moment) : Int → Prop
  | mk {days : Int} (h : m.date.DaysTo days) :
    IsTicks m (10 * (((days * 86400 + m.second) * 1000000000 + m.nanosecond).tdiv 1000))

theorem isTicks_iff (hm : m.date.IsDay) {k : Int} : m.IsTicks k ↔ k = m.ticks := by
  have hticks : m.ticks = 10 * m.nanoseconds.tdiv 1000 := Int.mul_comm _ _
  rw [hticks]
  constructor
  · rintro ⟨hdays⟩
    rw [(Date.daysTo_iff hm).mp hdays]
    rfl
  · rintro rfl
    exact .mk ((Date.daysTo_iff hm).mpr rfl)

/-! ### The order of ticks -/

/-- The second of a moment, counted from the beginning of the numbering of days. -/
def seconds (m : Moment) : Int := m.date.number * 86400 + m.second

/-- Whether a moment in a leap second is counted beyond a moment in the second after it. -/
def Overtakes (m m' : Moment) : Prop :=
  m'.seconds = m.seconds + 1 ∧ m'.nanosecond + 1000000000 < m.nanosecond

theorem nanoseconds_eq : m.nanoseconds = m.seconds * 1000000000 + m.nanosecond := rfl

/-- A moment that is not before another is of a later second, or of the same second and no earlier in it. -/
theorem seconds_lt_or_eq (hm : m.IsMoment) (hm' : m'.IsMoment) (h : m'.before m = false) :
    m.seconds < m'.seconds ∨ m.seconds = m'.seconds ∧ m.nanosecond ≤ m'.nanosecond := by
  have hsecond := hm.second
  simp only [before, Bool.or_eq_false_iff, Bool.and_eq_false_iff, decide_eq_false_iff_not,
    beq_eq_false_iff_ne] at h
  unfold seconds
  by_cases hlater : m.date.year < m'.date.year ∨
      m.date.year = m'.date.year ∧ m.date.ordinal < m'.date.ordinal
  · have hnumber := Date.number_lt hm.day hm'.day hlater
    omega
  · have hdate : m.date.year = m'.date.year ∧ m.date.ordinal = m'.date.ordinal := by omega
    have hnumber : m.date.number = m'.date.number := by simp only [Date.number, hdate]
    omega

/-- The nanoseconds up to moments are in the order of the moments, but for leap seconds. -/
theorem nanoseconds_le_iff (hm : m.IsMoment) (hm' : m'.IsMoment) (h : m'.before m = false) :
    m.nanoseconds ≤ m'.nanoseconds ↔ ¬ m.Overtakes m' := by
  have hnanosecond := hm.nanosecond
  have horder := seconds_lt_or_eq hm hm' h
  rw [nanoseconds_eq, nanoseconds_eq, Overtakes]
  omega

theorem microseconds_eq : m.microseconds =
    if 0 ≤ m.nanoseconds then m.nanoseconds / 1000 else -(-m.nanoseconds / 1000) := by
  unfold microseconds
  split
  case isTrue h => exact Int.tdiv_eq_ediv_of_nonneg h
  case isFalse h =>
    rw [← Int.tdiv_eq_ediv_of_nonneg (by omega), Int.neg_tdiv, Int.neg_neg]

theorem ticks_le (h : m.nanoseconds ≤ m'.nanoseconds) : m.ticks ≤ m'.ticks := by
  have hmicroseconds : m.microseconds ≤ m'.microseconds := Int.tdiv_le_tdiv (by decide) h
  unfold ticks ticksPerMicrosecond
  omega

/-- A moment in a leap second has more ticks than a moment in the second after it that is a microsecond
behind or more. -/
theorem ticks_lt (hm : m.IsMoment) (hseconds : m'.seconds = m.seconds + 1)
    (h : m'.nanosecond + 1000001000 ≤ m.nanosecond) : m'.ticks < m.ticks := by
  have hnanosecond := hm.nanosecond
  unfold ticks ticksPerMicrosecond
  rw [microseconds_eq, microseconds_eq, nanoseconds_eq, nanoseconds_eq]
  split_ifs <;> omega

end Moment

end Vigil
