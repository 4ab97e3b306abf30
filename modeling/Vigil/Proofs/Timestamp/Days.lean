import Mathlib.Data.Int.Init
import Mathlib.Tactic.SplitIfs
import Vigil.Timestamp.Calendar

/-! # The numbers of days

Days are numbered one by one, also over the ends of years, so later days have greater numbers.

* `daysInYear_eq`: the length of a year by the rule for leap years;
* `yearStart_succ`: a year begins when the days of the year before it are over;
* `Date.number_first`, `Date.number_next`: the numbering begins at zero and goes on by one;
* `Date.daysTo_iff`: it is the number of steps from a day to the next (`Date.DaysTo`), from the
  beginning of 1601 on or back;
* `Date.number_lt`: a day of a later year, or a later day of the same year, has a greater number.

Moments are those of the days that there are (`Moment.IsMoment`). -/

namespace Vigil

/-- The number of days of a year: a leap year is a fourth year; of those that end a century, only
every fourth. -/
def lengthOfYear (y : Int) : Nat := if 4 ∣ y ∧ (100 ∣ y → 400 ∣ y) then 366 else 365

theorem daysInYear_eq (y : Int) : daysInYear y = lengthOfYear y := by
  have hleap : isLeapYear y = true ↔ 4 ∣ y ∧ (100 ∣ y → 400 ∣ y) := by
    simp only [isLeapYear, Bool.and_eq_true, Bool.or_eq_true, beq_iff_eq, bne_iff_ne]
    omega
  unfold daysInYear lengthOfYear
  simp only [hleap]

theorem yearStart_succ (y : Int) : yearStart (y + 1) = yearStart y + lengthOfYear y := by
  unfold yearStart firstYear lengthOfYear
  dsimp only
  split_ifs with hleap
  · omega
  · omega

theorem yearStart_le {y z : Int} (h : y ≤ z) : yearStart y ≤ yearStart z := by
  rcases Int.le_iff_lt_or_eq.mp h with hlt | rfl
  · unfold yearStart firstYear
    simp only
    omega
  · exact Int.le_refl _

namespace Date

/-- Whether the number of a day in its year is one that the year has. -/
structure IsDay (d : Date) : Prop where
  pos : 1 ≤ d.ordinal
  le : d.ordinal ≤ lengthOfYear d.year

variable {d e : Date}

/-- The day after a day. -/
def next (d : Date) : Date :=
  if d.ordinal < lengthOfYear d.year then ⟨d.year, d.ordinal + 1⟩ else ⟨d.year + 1, 1⟩

theorem number_first : number ⟨firstYear, 1⟩ = 0 := rfl

theorem number_next (hd : d.IsDay) : d.next.number = d.number + 1 := by
  have hle := hd.le
  unfold next number
  split_ifs with hlast
  · dsimp only
    omega
  · dsimp only
    rw [yearStart_succ]
    omega

/-- Later days have greater numbers. -/
theorem number_lt (hd : d.IsDay) (he : e.IsDay)
    (h : d.year < e.year ∨ d.year = e.year ∧ d.ordinal < e.ordinal) : d.number < e.number := by
  have hle := hd.le
  have hpos := he.pos
  unfold number
  rcases h with hyear | ⟨hyear, hordinal⟩
  · have hstart : yearStart d.year + lengthOfYear d.year ≤ yearStart e.year := by
      rw [← yearStart_succ]
      exact yearStart_le hyear
    omega
  · rw [hyear]
    omega

theorem eq_of_number_eq (hd : d.IsDay) (he : e.IsDay) (h : d.number = e.number) : d = e := by
  have hde := mt (number_lt hd he) (by omega)
  have hed := mt (number_lt he hd) (by omega)
  obtain ⟨y, i⟩ := d
  obtain ⟨z, j⟩ := e
  dsimp only at hde hed
  rw [mk.injEq]
  omega

/-! ### Counting days -/

/-- The number of days to a day from the first of January 1601, counted one by one, and below zero to
the days before. -/
inductive DaysTo : Date → Int → Prop
  | first : DaysTo ⟨1601, 1⟩ 0
  | next {d : Date} {n : Int} (h : DaysTo d n) : DaysTo d.next (n + 1)
  | previous {d : Date} {n : Int} (day : d.IsDay) (h : DaysTo d.next (n + 1)) : DaysTo d n

theorem lengthOfYear_pos (y : Int) : 1 ≤ lengthOfYear y := by
  unfold lengthOfYear
  split_ifs <;> decide

theorem isDay_next (d : Date) : d.next.IsDay := by
  unfold Date.next
  split_ifs with hlast
  · exact ⟨Nat.le_add_left 1 d.ordinal, hlast⟩
  · exact ⟨Nat.le_refl 1, lengthOfYear_pos _⟩

/-- Each day is the next of one. -/
theorem exists_next_eq (hd : d.IsDay) : ∃ e : Date, e.IsDay ∧ e.next = d := by
  have hpos := hd.pos
  have hle := hd.le
  obtain ⟨y, i⟩ := d
  dsimp only at hpos hle
  by_cases hfirst : i = 1
  · refine ⟨⟨y - 1, lengthOfYear (y - 1)⟩, ⟨lengthOfYear_pos _, Nat.le_refl _⟩, ?_⟩
    rw [Date.next, if_neg (Nat.lt_irrefl _), hfirst, Int.sub_add_cancel]
  · refine ⟨⟨y, i - 1⟩, ⟨by dsimp only; omega, by dsimp only; omega⟩, ?_⟩
    rw [Date.next, if_pos (by dsimp only; omega), Nat.sub_add_cancel hpos]

theorem isDay_and_number_of_daysTo {n : Int} (h : d.DaysTo n) : d.IsDay ∧ d.number = n := by
  induction h with
  | first => exact ⟨⟨by decide, by decide⟩, number_first⟩
  | next h ih =>
    obtain ⟨hd, hnumber⟩ := ih
    exact ⟨isDay_next _, by rw [number_next hd, hnumber]⟩
  | previous hd h ih =>
    rw [number_next hd] at ih
    exact ⟨hd, by omega⟩

theorem exists_daysTo (n : Int) : ∃ d : Date, d.DaysTo n := by
  induction n using Int.induction_on with
  | zero => exact ⟨_, .first⟩
  | succ n ih =>
    obtain ⟨d, hd⟩ := ih
    exact ⟨d.next, .next hd⟩
  | pred n ih =>
    obtain ⟨d, hd⟩ := ih
    obtain ⟨e, he, rfl⟩ := exists_next_eq (isDay_and_number_of_daysTo hd).1
    refine ⟨e, .previous he ?_⟩
    rw [Int.sub_add_cancel]
    exact hd

/-- **The number of a day** is that of the days to it. -/
theorem daysTo_iff (hd : d.IsDay) {n : Int} : d.DaysTo n ↔ n = d.number := by
  constructor
  · exact fun h => (isDay_and_number_of_daysTo h).2.symm
  · rintro rfl
    obtain ⟨e, he⟩ := exists_daysTo d.number
    obtain ⟨hday, hnumber⟩ := isDay_and_number_of_daysTo he
    obtain rfl := eq_of_number_eq hday hd hnumber
    exact he

end Date

/-- Whether there is a moment: its day has its second, which lasts two seconds at most. -/
structure Moment.IsMoment (m : Moment) : Prop where
  day : m.date.IsDay
  second : m.second < 86400
  nanosecond : m.nanosecond < 2000000000

end Vigil
