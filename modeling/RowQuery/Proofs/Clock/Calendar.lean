import Mathlib.Algebra.Order.Ring.Int
import Mathlib.Order.Compare
import RowQuery.Clock.Instant

/-!
# The calendar

Every day has a date, and later days have later dates.

* `Date.Valid` are the dates that a calendar shows, and `Date.dayNumber` counts the days that have
  passed before a date: year by year, month by month, day by day.
* `Date.yearOf_spec` — the year of a day begins no later than the day and ends after it.
* `Date.ofDays_valid` and `Date.dayNumber_ofDays` — the date of a day is one of the calendar, and
  counts back to the day.
* `Date.order_ofDays` — the order of two dates is that of their days.

## Design notes

`Date.daysBefore` is a formula, and what a calendar is does not rest on it: years are counted by
their lengths, and these by the lengths of their months.
-/

namespace RowQuery

/-- What is compared by its leading parts first and then by the rest, is compared as a whole. -/
theorem compare_then {α β : Type} [LinearOrder α] [LinearOrder β] {a b : α} {x y : β}
    {rest : Ordering} (less : x < y → a < b) (greater : y < x → b < a)
    (same : x = y → rest = compare a b) : (compare x y).then rest = compare a b := by
  rcases leading : compare x y with _ | _ | _
  · exact (compare_lt_iff_lt.mpr (less (compare_lt_iff_lt.mp leading))).symm
  · exact same (compare_eq_iff_eq.mp leading)
  · exact (compare_gt_iff_gt.mpr (greater (compare_gt_iff_gt.mp leading))).symm

/-- Numbers in the same order as others compare as these do. -/
theorem compare_congr {α β : Type} [LinearOrder α] [LinearOrder β] {a b : α} {x y : β}
    (less : x < y → a < b) (greater : y < x → b < a) (same : x = y → a = b) :
    compare x y = compare a b := by
  rw [← Ordering.then_eq (o := compare x y)]
  exact compare_then less greater fun h => (compare_eq_iff_eq.mpr (same h)).symm

/-- A number is compared by its quotient first and then by its remainder. -/
theorem compare_div_mod (k n m : Nat) :
    (compare (n / k) (m / k)).then (compare (n % k) (m % k)) = compare n m := by
  refine compare_then Nat.lt_of_div_lt_div Nat.lt_of_div_lt_div fun same => ?_
  have whole := Nat.div_add_mod n k
  have whole' := Nat.div_add_mod m k
  rw [same] at whole
  exact compare_congr (by omega) (by omega) (by omega)

namespace Date

/-! ### Years -/

/-- How many days a year has. -/
def yearLength (year : Int) : Nat := (monthLengths (isLeap year)).sum

/-- How many days the first years have together. -/
def daysOfYears : Nat → Nat
  | 0 => 0
  | past + 1 => daysOfYears past + yearLength (past + 1 : Nat)

theorem daysBefore_succ (year : Int) :
    daysBefore (year + 1) = daysBefore year + yearLength year := by
  -- Each quotient of the formula grows in the years that its part of the leap rule is about.
  by_cases leap : isLeap year
  · have length : yearLength year = 366 := by
      rw [yearLength, leap]
      rfl
    simp only [isLeap, Bool.and_eq_true, Bool.or_eq_true, decide_eq_true_eq] at leap
    simp only [daysBefore, length]
    omega
  · have length : yearLength year = 365 := by
      rw [yearLength, eq_false_of_ne_true leap]
      rfl
    simp only [isLeap, Bool.and_eq_true, Bool.or_eq_true, decide_eq_true_eq] at leap
    simp only [daysBefore, length]
    omega

/-- The formula counts the days of the years before a year. -/
theorem daysBefore_eq {year : Int} (first : 1 ≤ year) :
    daysBefore year = daysOfYears (year - 1).toNat := by
  have counted (past : Nat) : daysBefore (past + 1) = daysOfYears past := by
    induction past with
    | zero => rfl
    | succ past ih =>
      rw [daysBefore_succ, Nat.cast_succ, ih]
      rfl
  rw [← counted, Int.toNat_of_nonneg (Int.sub_nonneg_of_le first), Int.sub_add_cancel]

theorem daysBefore_mono {year later : Int} (h : year ≤ later) :
    daysBefore year ≤ daysBefore later := by
  simp only [daysBefore]
  omega

/-- **The year of a day** begins no later than the day and ends after it. -/
theorem yearOf_spec (day : Int) :
    daysBefore (yearOf day) ≤ day ∧ day < daysBefore (yearOf day + 1) := by
  -- The mean length of a year leads to the year itself or to one of its neighbours.
  have near : daysBefore (day * 400 / 146097 + 1 - 1) ≤ day ∧
      day < daysBefore (day * 400 / 146097 + 1 + 1 + 1) := by
    simp only [daysBefore]
    omega
  rw [yearOf]
  split
  · next early =>
    refine ⟨near.1, ?_⟩
    rwa [Int.sub_add_cancel]
  · split
    · next _ late => exact ⟨late, near.2⟩
    · next early late => exact ⟨Int.not_lt.mp early, Int.not_le.mp late⟩

/-- Days of an earlier year are earlier. -/
theorem lt_of_yearOf_lt {day other : Int} (h : yearOf day < yearOf other) : day < other := by
  have next : daysBefore (yearOf day + 1) ≤ daysBefore (yearOf other) := daysBefore_mono h
  have ends := (yearOf_spec day).2
  have begins := (yearOf_spec other).1
  omega

theorem yearOf_le {day year : Int} (h : day < daysBefore (year + 1)) : yearOf day ≤ year := by
  by_contra later
  have next : daysBefore (year + 1) ≤ daysBefore (yearOf day) := daysBefore_mono (by omega)
  have begins := (yearOf_spec day).1
  omega

theorem le_yearOf {day year : Int} (h : daysBefore year ≤ day) : year ≤ yearOf day := by
  by_contra earlier
  have next : daysBefore (yearOf day + 1) ≤ daysBefore year := daysBefore_mono (by omega)
  have ends := (yearOf_spec day).2
  omega

/-- The days of its year that have passed before a day. -/
def dayOfYear (day : Int) : Nat := (day - daysBefore (yearOf day)).toNat

theorem daysBefore_add_dayOfYear (day : Int) : daysBefore (yearOf day) + dayOfYear day = day := by
  have begins := (yearOf_spec day).1
  rw [dayOfYear]
  omega

theorem dayOfYear_lt (day : Int) : dayOfYear day < yearLength (yearOf day) := by
  have ends := (yearOf_spec day).2
  have whole := daysBefore_add_dayOfYear day
  rw [daysBefore_succ] at ends
  omega

/-! ### Months -/

/-- The month of a day and the day of the month are found by the lengths of the months before. -/
theorem monthDay_spec {lengths : List Nat} {day : Nat} (month : Nat) (inside : day < lengths.sum) :
    ∃ before rest length, monthDay month lengths day = (month + before, rest + 1) ∧
      lengths[before]? = some length ∧ rest < length ∧ (lengths.take before).sum + rest = day := by
  induction lengths generalizing month day with
  | nil => exact absurd inside (Nat.not_lt_zero day)
  | cons length lengths ih =>
    rw [monthDay]
    split
    · next here => exact ⟨0, day, length, rfl, rfl, here, by simp⟩
    · next later =>
      -- The first month is over: its days come off, and the other months are searched.
      rw [List.sum_cons] at inside
      obtain ⟨before, rest, other, found, listed, small, total⟩ :=
        ih (month + 1) (show day - length < lengths.sum by omega)
      refine ⟨before + 1, rest, other, ?_, listed, small, ?_⟩
      · rw [found, Nat.add_right_comm, Nat.add_assoc]
      · rw [List.take_succ_cons, List.sum_cons]
        omega

/-- A month ends before the next ones begin. -/
theorem sum_take_add_le {lengths : List Nat} {i j length : Nat} (listed : lengths[i]? = some length)
    (later : i < j) : (lengths.take i).sum + length ≤ (lengths.take j).sum := by
  have front : (lengths.take (i + 1)).sum = (lengths.take i).sum + length := by
    rw [List.take_add_one, listed, List.sum_append, Option.toList_some, List.sum_singleton]
  obtain ⟨more, rfl⟩ := Nat.exists_eq_add_of_le later
  have next : (lengths.take (i + 1 + more)).sum =
      (lengths.take (i + 1)).sum + ((lengths.drop (i + 1)).take more).sum := by
    rw [List.take_add, List.sum_append]
  rw [← front, next]
  exact Nat.le_add_right _ _

/-- Days of a year are in the order of their months and, within a month, of their days. -/
theorem compare_monthDay {day other : Nat} {lengths : List Nat} (month : Nat)
    (inside : day < lengths.sum) (inside' : other < lengths.sum) :
    (compare (monthDay month lengths day).1 (monthDay month lengths other).1).then
      (compare (monthDay month lengths day).2 (monthDay month lengths other).2) =
        compare day other := by
  obtain ⟨before, rest, length, found, listed, small, total⟩ := monthDay_spec month inside
  obtain ⟨before', rest', length', found', listed', small', total'⟩ := monthDay_spec month inside'
  rw [found, found']
  refine compare_then (fun less => ?_) (fun greater => ?_) fun same => ?_
  · have ends := sum_take_add_le listed (Nat.lt_of_add_lt_add_left less)
    omega
  · have ends := sum_take_add_le listed' (Nat.lt_of_add_lt_add_left greater)
    omega
  · obtain rfl := Nat.add_left_cancel same
    exact compare_congr (by omega) (by omega) (by omega)

/-! ### Dates -/

/-- How many days the months of a year have together that come before a month. -/
def daysOfMonths (year : Int) (month : Nat) : Nat :=
  ((monthLengths (isLeap year)).take (month - 1)).sum

/-- How many days a month of a year has. -/
def monthLength (year : Int) (month : Nat) : Nat :=
  (monthLengths (isLeap year)).getD (month - 1) 0

theorem monthLength_le (year : Int) (month : Nat) : monthLength year month ≤ 31 := by
  have longest : ∀ length ∈ monthLengths (isLeap year), length ≤ 31 := by
    cases isLeap year <;> decide
  rw [monthLength, List.getD_eq_getElem?_getD]
  cases listed : (monthLengths (isLeap year))[month - 1]? with
  | none => exact Nat.zero_le 31
  | some length => exact longest length (List.mem_of_getElem? listed)

/-- A date of the calendar in a year that is written with four digits. -/
structure Valid (date : Date) : Prop where
  year : 1 ≤ date.year ∧ date.year ≤ 9999
  month : 1 ≤ date.month ∧ date.month ≤ 12
  day : 1 ≤ date.day ∧ date.day ≤ monthLength date.year date.month

/-- How many days have passed before a date since the beginning of the year 1. -/
def dayNumber (date : Date) : Int :=
  daysOfYears (date.year - 1).toNat + daysOfMonths date.year date.month + (date.day - 1)

/-- When a year begins, the years before it have passed. -/
theorem dayNumber_newYear {year : Int} (first : 1 ≤ year) :
    dayNumber ⟨year, 1, 1⟩ = daysBefore year := by
  simp [dayNumber, daysOfMonths, daysBefore_eq first]

/-- The order of two dates. -/
def order (a b : Date) : Ordering :=
  (compare a.year b.year).then ((compare a.month b.month).then (compare a.day b.day))

theorem ofDays_eq (day : Int) : ofDays day =
    ⟨yearOf day, (monthDay 1 (monthLengths (isLeap (yearOf day))) (dayOfYear day)).1,
      (monthDay 1 (monthLengths (isLeap (yearOf day))) (dayOfYear day)).2⟩ := rfl

/-- The date of a day, by the days that have passed in its year and in its month. -/
theorem ofDays_spec (day : Int) : ∃ before rest,
    ofDays day = ⟨yearOf day, before + 1, rest + 1⟩ ∧ before < 12 ∧
      rest < monthLength (yearOf day) (before + 1) ∧
      daysOfMonths (yearOf day) (before + 1) + rest = dayOfYear day := by
  obtain ⟨before, rest, length, found, listed, small, total⟩ := monthDay_spec 1 (dayOfYear_lt day)
  refine ⟨before, rest, ?_, ?_, ?_, total⟩
  · rw [ofDays_eq, found, Nat.add_comm]
  · exact (List.getElem?_eq_some_iff.mp listed).1
  · rw [monthLength, Nat.add_sub_cancel, List.getD_eq_getElem?_getD, listed]
    exact small

/-- **The date of a day is one of the calendar.** -/
theorem ofDays_valid {day : Int} (first : 0 ≤ day) (last : day < daysBefore 10000) :
    (ofDays day).Valid := by
  obtain ⟨before, rest, found, month, small, -⟩ := ofDays_spec day
  rw [found]
  exact {
    year := ⟨le_yearOf first, yearOf_le last⟩
    month := ⟨Nat.le_add_left 1 before, month⟩
    day := ⟨Nat.le_add_left 1 rest, small⟩ }

/-- **The date of a day counts back to the day.** -/
theorem dayNumber_ofDays {day : Int} (first : 0 ≤ day) : (ofDays day).dayNumber = day := by
  obtain ⟨before, rest, found, -, -, total⟩ := ofDays_spec day
  have year : 1 ≤ yearOf day := le_yearOf first
  have years := daysBefore_eq year
  have whole := daysBefore_add_dayOfYear day
  rw [found]
  simp only [dayNumber, ← years]
  omega

/-- **Later days have later dates.** -/
theorem order_ofDays (day other : Int) : (ofDays day).order (ofDays other) = compare day other := by
  refine compare_then lt_of_yearOf_lt lt_of_yearOf_lt fun same => ?_
  have same : yearOf day = yearOf other := same
  have inside := dayOfYear_lt day
  have inside' := dayOfYear_lt other
  have whole := daysBefore_add_dayOfYear day
  have whole' := daysBefore_add_dayOfYear other
  rw [ofDays_eq, ofDays_eq]
  rw [same] at inside whole ⊢
  rw [compare_monthDay 1 inside inside']
  exact compare_congr (by omega) (by omega) (by omega)

end Date
end RowQuery
