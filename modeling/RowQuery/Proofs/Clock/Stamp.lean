import RowQuery.Proofs.Clock.Form

/-!
# Stamps

The text of an instant shows its date and its time of day, to the millisecond.

* `Stamp` is what such a text shows; `Stamp.read?` reads it off a text, and `Stamp.instant` is the
  instant that it names.
* `Instant.text_eq` — the text of an instant is written in the form of stamps.
* `Instant.instant_stamp` — the stamp of an instant names the beginning of its millisecond.
* `Instant.order_text` — the store has the texts of instants in the order of their milliseconds.
* `Instant.text_tells_time` — all of it together.

## Design notes

Texts are compared as the store compares them, because rows are sorted by their stamps; for texts
that is the order of strings.
-/

namespace RowQuery

/-- A date and a time of day. -/
structure Stamp where
  date : Date
  hour : Nat
  minute : Nat
  second : Nat
  millisecond : Nat

namespace Stamp

/-- `YYYY-MM-DDTHH:MM:SS.mmmZ`. -/
def form : Form := [
  .number 4, .sign '-', .number 2, .sign '-', .number 2, .sign 'T',
  .number 2, .sign ':', .number 2, .sign ':', .number 2, .sign '.', .number 3, .sign 'Z']

/-- The numbers in a stamp, as they are written. -/
def numbers (stamp : Stamp) : List Nat :=
  [stamp.date.year.toNat, stamp.date.month, stamp.date.day,
    stamp.hour, stamp.minute, stamp.second, stamp.millisecond]

/-- The stamp with these numbers. -/
def ofNumbers? : List Nat → Option Stamp
  | [year, month, day, hour, minute, second, millisecond] =>
    some ⟨⟨year, month, day⟩, hour, minute, second, millisecond⟩
  | _ => none

/-- The stamp that a text shows, provided that it has the form. -/
def read? (text : String) : Option Stamp := (Form.read? form text.toList).bind ofNumbers?

/-- A stamp in its form. -/
def text (stamp : Stamp) : String := String.ofList (Form.write form stamp.numbers)

/-- A date of the calendar and a time that a clock shows. -/
structure Valid (stamp : Stamp) : Prop where
  date : stamp.date.Valid
  hour : stamp.hour < 24
  minute : stamp.minute < 60
  second : stamp.second < 60
  millisecond : stamp.millisecond < 1000

/-- The milliseconds of its day that have passed. -/
def clock (stamp : Stamp) : Nat :=
  ((stamp.hour * 60 + stamp.minute) * 60 + stamp.second) * 1000 + stamp.millisecond

/-- The instant that a stamp names: the microseconds since the beginning of 1970. -/
def instant (stamp : Stamp) : Instant :=
  let days := stamp.date.dayNumber - Date.dayNumber ⟨1970, 1, 1⟩
  (days * 24 * 60 * 60 * 1000 + stamp.clock) * 1000

theorem dayNumber_epoch : Date.dayNumber ⟨1970, 1, 1⟩ = Instant.epochDay := by
  rw [Date.dayNumber_newYear (by decide)]
  rfl

/-- The beginning of a year. -/
def newYear (year : Int) : Stamp := ⟨⟨year, 1, 1⟩, 0, 0, 0, 0⟩

theorem instant_newYear {year : Int} (first : 1 ≤ year) :
    (newYear year).instant = (Date.daysBefore year - Instant.epochDay) * Instant.perDay := by
  have days : (newYear year).date.dayNumber = Date.daysBefore year := Date.dayNumber_newYear first
  have midnight : (newYear year).clock = 0 := by simp [clock, newYear]
  simp only [instant, dayNumber_epoch, days, midnight, Instant.perDay]
  show @Eq Int _ _
  omega

/-- The widths of the form suffice for all valid stamps. -/
theorem Valid.holds {stamp : Stamp} (valid : stamp.Valid) : Form.Holds form stamp.numbers := by
  have year := valid.date.year.2
  have month := valid.date.month.2
  have day := valid.date.day.2.trans (Date.monthLength_le _ _)
  have hour := valid.hour
  have minute := valid.minute
  have second := valid.second
  have millisecond := valid.millisecond
  refine .number (by decide) (by omega) (.sign _ ?_)
  refine .number (by decide) (by omega) (.sign _ ?_)
  refine .number (by decide) (by omega) (.sign _ ?_)
  refine .number (by decide) (by omega) (.sign _ ?_)
  refine .number (by decide) (by omega) (.sign _ ?_)
  refine .number (by decide) (by omega) (.sign _ ?_)
  exact .number (by decide) (by omega) (.sign _ .done)

/-- A valid stamp is read as it was written. -/
theorem Valid.read?_text {stamp : Stamp} (valid : stamp.Valid) : read? stamp.text = some stamp := by
  have year : (stamp.date.year.toNat : Int) = stamp.date.year :=
    Int.toNat_of_nonneg (by have := valid.date.year.1; omega)
  rw [read?, text, String.toList_ofList, Form.read?_write valid.holds]
  show some (Stamp.mk ⟨stamp.date.year.toNat, _, _⟩ _ _ _ _) = _
  rw [year]

end Stamp

namespace Instant

/-- The instants of the years 1 to 9999. -/
def Within (t : Int) : Prop := (Stamp.newYear 1).instant ≤ t ∧ t < (Stamp.newYear 10000).instant

theorem within_iff {t : Int} :
    Within t ↔ -62135596800000000 ≤ t ∧ t < 253402300800000000 := by
  have first : (Stamp.newYear 1).instant = -62135596800000000 := Stamp.instant_newYear (by decide)
  have last : (Stamp.newYear 10000).instant = 253402300800000000 :=
    Stamp.instant_newYear (by decide)
  rw [Within, first, last]

/-- What the text of an instant shows. -/
def stamp (t : Instant) : Stamp :=
  let passed := millisecondOfDay t
  ⟨date t, passed / 3600000, passed / 60000 % 60, passed / 1000 % 60, passed % 1000⟩

/-- The text of an instant is its stamp, written. -/
theorem text_eq (t : Instant) : text t = (stamp t).text := by
  simp [text, chars, stamp, Stamp.text, Stamp.form, Stamp.numbers, Form.write]

/-! ### Stamps of instants -/

section

variable {t u : Int}

theorem day_inside (within : Within t) :
    0 ≤ t / perDay + epochDay ∧ t / perDay + epochDay < Date.daysBefore 10000 := by
  obtain ⟨first, last⟩ := within_iff.mp within
  have limit : Date.daysBefore 10000 = 3652059 := rfl
  simp only [perDay, epochDay, limit]
  omega

theorem millisecondOfDay_lt (t : Int) : millisecondOfDay t < 86400000 := by
  simp only [millisecondOfDay, perDay]
  omega

/-- Days and milliseconds of the day together tell the millisecond. -/
theorem millisecond_eq (t : Int) :
    t / 1000 = t / perDay * 86400000 + (millisecondOfDay t : Int) := by
  simp only [millisecondOfDay, perDay]
  omega

/-- **What the text of an instant shows is valid.** -/
theorem stamp_valid (within : Within t) : (stamp t).Valid := by
  obtain ⟨first, last⟩ := day_inside within
  have below := millisecondOfDay_lt t
  exact {
    date := Date.ofDays_valid first last
    hour := Nat.div_lt_of_lt_mul below
    minute := Nat.mod_lt _ (by decide)
    second := Nat.mod_lt _ (by decide)
    millisecond := Nat.mod_lt _ (by decide) }

theorem clock_stamp (t : Int) : (stamp t).clock = millisecondOfDay t := by
  simp only [Stamp.clock, stamp]
  omega

/-- **The stamp of an instant names the beginning of its millisecond.** -/
theorem instant_stamp (within : Within t) : (stamp t).instant = t - t % 1000 := by
  have day : (stamp t).date.dayNumber = t / perDay + epochDay :=
    Date.dayNumber_ofDays (day_inside within).1
  have named := millisecond_eq t
  simp only [Stamp.instant, day, Stamp.dayNumber_epoch, clock_stamp, Int.add_sub_cancel]
  show @Eq Int _ _
  omega

/-- Hours, minutes, seconds and milliseconds are in the order of what they are together. -/
theorem compare_clock (n m : Nat) :
    (compare (n / 3600000) (m / 3600000)).then ((compare (n / 60000 % 60) (m / 60000 % 60)).then
      ((compare (n / 1000 % 60) (m / 1000 % 60)).then (compare (n % 1000) (m % 1000)))) =
        compare n m := by
  have hours (n : Nat) : n / 3600000 = n / 60000 / 60 := (Nat.div_div_eq_div_mul n 60000 60).symm
  have minutes (n : Nat) : n / 60000 = n / 1000 / 60 := (Nat.div_div_eq_div_mul n 1000 60).symm
  rw [hours, hours, ← Ordering.then_assoc, compare_div_mod, minutes, minutes,
    ← Ordering.then_assoc, compare_div_mod, compare_div_mod]

/-- Later instants have later stamps, unless they share a millisecond. -/
theorem compare_numbers (within : Within t) (within' : Within u) :
    compare (stamp t).numbers (stamp u).numbers = compare (t / 1000) (u / 1000) := by
  have years : compare (stamp t).date.year.toNat (stamp u).date.year.toNat =
      compare (stamp t).date.year (stamp u).date.year := by
    have year := (stamp_valid within).date.year
    have year' := (stamp_valid within').date.year
    exact compare_congr (by omega) (by omega) (by omega)
  have dates := Date.order_ofDays (t / perDay + epochDay) (u / perDay + epochDay)
  have nothing : compare ([] : List Nat) [] = .eq := rfl
  have clocks := compare_clock (millisecondOfDay t) (millisecondOfDay u)
  -- The seven numbers are two groups: the first three tell the day, the others the time of day.
  calc compare (stamp t).numbers (stamp u).numbers
      = ((stamp t).date.order (stamp u).date).then
          (compare (millisecondOfDay t) (millisecondOfDay u)) := by
        rw [← clocks]
        simp only [Stamp.numbers, List.compare_cons_cons, nothing, Ordering.then_eq, years,
          Date.order, Ordering.then_assoc]
        rfl
    _ = (compare (t / perDay + epochDay) (u / perDay + epochDay)).then
          (compare (millisecondOfDay t) (millisecondOfDay u)) := congrArg (Ordering.then · _) dates
    _ = compare (t / 1000) (u / 1000) := by
        have below := millisecondOfDay_lt t
        have below' := millisecondOfDay_lt u
        rw [millisecond_eq t, millisecond_eq u]
        refine compare_then (by omega) (by omega) fun same => ?_
        exact compare_congr (by omega) (by omega) (by omega)

/-! ### Texts of instants -/

/-- The store has the texts of instants in the order of their milliseconds. -/
theorem order_text (within : Within t) (within' : Within u) :
    (Cell.text (text t)).order (.text (text u)) = compare (t / 1000) (u / 1000) := by
  rw [text_eq, text_eq, ← compare_numbers within within']
  show Cell.textOrder (Stamp.text _).toList (Stamp.text _).toList = _
  rw [Stamp.text, Stamp.text, String.toList_ofList, String.toList_ofList]
  exact Form.textOrder_write (stamp_valid within).holds (stamp_valid within').holds

/-- Within a millisecond the text stays the same. -/
theorem text_congr (same : t / 1000 = u / 1000) : text t = text u := by
  have day : t / perDay = u / perDay := by
    simp only [perDay]
    omega
  have clock : millisecondOfDay t = millisecondOfDay u := by
    have whole := millisecond_eq t
    have whole' := millisecond_eq u
    omega
  rw [text_eq, text_eq, stamp, stamp, date, date, day, clock]

/-- What is read of a text names the millisecond. -/
theorem millisecond_of_text (within : Within t) (within' : Within u) (same : text t = text u) :
    t / 1000 = u / 1000 := by
  rw [text_eq, text_eq] at same
  have read := (stamp_valid within).read?_text
  rw [same, (stamp_valid within').read?_text] at read
  have named : (stamp u).instant = t - t % 1000 :=
    (congrArg Stamp.instant (Option.some.inj read)).trans (instant_stamp within)
  have begun : t - t % 1000 = u - u % 1000 := named.symm.trans (instant_stamp within')
  omega

end

/-- **The text of an instant tells its time.** In the years 1 to 9999 it has the form
`YYYY-MM-DDTHH:MM:SS.mmmZ` with a date of the calendar and a time of the day, and is read as the
beginning of the millisecond. Texts sort as their instants do, and are the same exactly within a
millisecond. -/
theorem text_tells_time (t u : Instant) (within : Within t) (within' : Within u) :
    Form.Fits Stamp.form (text t).toList ∧
      (∃ shown, Stamp.read? (text t) = some shown ∧ shown.Valid ∧
        shown.instant = t - t % 1000) ∧
      (t ≤ u → text t ≤ text u) ∧ (text t = text u ↔ t / 1000 = u / 1000) := by
  have valid := stamp_valid within
  refine ⟨?_, ⟨stamp t, ?_, valid, instant_stamp within⟩, fun earlier => ?_,
    millisecond_of_text within within', text_congr⟩
  · rw [text_eq, Stamp.text, String.toList_ofList]
    exact Form.fits_write valid.holds
  · rw [text_eq]
    exact valid.read?_text
  · show ¬(text u).toList < (text t).toList
    rw [← Cell.textOrder_eq_gt_iff]
    intro greater
    have later := compare_gt_iff_gt.mp ((order_text within within').symm.trans greater)
    exact absurd (Int.ediv_le_ediv (by decide) earlier) (Int.not_le.mpr later)

/-- The last microsecond before 1970, and the last one of a leap day. -/
theorem text_tells_time_leapDay :
    Within (-1) ∧ Within 951868799999999 ∧ text (-1) = "1969-12-31T23:59:59.999Z" ∧
      text 951868799999999 = "2000-02-29T23:59:59.999Z" ∧
      Form.Fits Stamp.form (text (-1)).toList ∧
      (∃ shown, Stamp.read? (text (-1)) = some shown ∧ shown.Valid ∧ shown.instant = -1000) ∧
      text (-1) ≤ text 951868799999999 ∧ text (-1) ≠ text 951868799999999 := by
  have early : Within (-1) := within_iff.mpr (by decide)
  have late : Within 951868799999999 := within_iff.mpr (by decide)
  obtain ⟨fits, shows, sorted, same⟩ := text_tells_time (-1) 951868799999999 early late
  refine ⟨early, late, by decide +kernel, by decide +kernel, fits, shows, sorted (by decide), ?_⟩
  exact fun equal => absurd (same.mp equal) (by decide)

end Instant

end RowQuery
