import Decnet.Common.Text
import Mathlib.Tactic.IntervalCases
import Mathlib.Logic.Function.Iterate

/-!
# Days and dates

Time stamps of events count from 1 January 1977.  The two conversions between
days and dates are closed formulas over eras of 400 years that begin on
1 March; the calendar they are compared with is `Civil.next`, one day at a time.
-/

namespace Decnet.Calendar

structure Civil where
  y : Int
  (m d : Nat)
  deriving DecidableEq

/-- The number of a month, from March on. -/
def monthIndex (m : Nat) : Nat := if 2 < m then m - 3 else m + 9

/-- Days from 1 January 1970. -/
def daysFromCivil (y : Int) (m d : Nat) : Int :=
  let y := if m ≤ 2 then y - 1 else y
  let era := (if 0 ≤ y then y else y - 399).tdiv 400
  let yoe := (y - era * 400).toNat
  let doy := (153 * monthIndex m + 2) / 5 + d - 1
  let doe := yoe * 365 + yoe / 4 - yoe / 100 + doy
  era * 146097 + doe - 719468

def civilFromDays (z : Int) : Civil :=
  let z := z + 719468
  let era := (if 0 ≤ z then z else z - 146096).tdiv 146097
  let doe := (z - era * 146097).toNat
  let yoe := (doe - doe / 1460 + doe / 36524 - doe / 146096) / 365
  let y := yoe + era * 400
  let doy := doe - (365 * yoe + yoe / 4 - yoe / 100)
  let mp := (5 * doy + 2) / 153
  let d := doy - (153 * mp + 2) / 5 + 1
  let m := if mp < 10 then mp + 3 else mp - 9
  ⟨if m ≤ 2 then y + 1 else y, m, d⟩

/-! ## The calendar -/

def leap (y : Int) : Prop := y % 4 = 0 ∧ (y % 100 ≠ 0 ∨ y % 400 = 0)

instance (y : Int) : Decidable (leap y) := inferInstanceAs (Decidable (_ ∧ _))

def daysIn (y : Int) (m : Nat) : Nat :=
  if m = 2 then if leap y then 29 else 28
  else if m = 4 ∨ m = 6 ∨ m = 9 ∨ m = 11 then 30 else 31

structure Civil.Valid (c : Civil) : Prop where
  month : 1 ≤ c.m ∧ c.m ≤ 12
  day : 1 ≤ c.d ∧ c.d ≤ daysIn c.y c.m

def Civil.next (c : Civil) : Civil :=
  if c.d < daysIn c.y c.m then { c with d := c.d + 1 }
  else if c.m < 12 then ⟨c.y, c.m + 1, 1⟩
  else ⟨c.y + 1, 1, 1⟩

theorem floor_400 (y : Int) : (if 0 ≤ y then y else y - 399).tdiv 400 = y / 400 := by
  rw [Int.tdiv_eq_ediv, show Int.sign 400 = 1 from rfl]
  omega

/-- The day of the year that begins on 1 March. -/
def dayOfYear (m d : Nat) : Nat := (153 * monthIndex m + 2) / 5 + d - 1

/-- The days before 1 March of a year. -/
def yearStart (y : Int) : Int := 365 * y + y / 4 - y / 100 + y / 400

theorem yearStart_sub_one (y : Int) :
    yearStart y = yearStart (y - 1) + if leap y then 366 else 365 := by
  have four : (y - 1) / 4 = if y % 4 = 0 then y / 4 - 1 else y / 4 := by omega
  have hundred : (y - 1) / 100 = if y % 100 = 0 then y / 100 - 1 else y / 100 := by omega
  have fourHundred : (y - 1) / 400 = if y % 400 = 0 then y / 400 - 1 else y / 400 := by omega
  simp only [yearStart, leap, four, hundred, fourHundred]
  split_ifs <;> omega

theorem daysFromCivil_eq (y : Int) (m d : Nat) :
    daysFromCivil y m d =
      yearStart (if m ≤ 2 then y - 1 else y) + dayOfYear m d - 719468 := by
  rw [daysFromCivil, dayOfYear]
  generalize (if m ≤ 2 then y - 1 else y) = y'
  rw [floor_400, yearStart]
  omega

/-- The next date is a date, and its number the next number. -/
theorem Civil.Valid.next {c : Civil} (valid : c.Valid) : c.next.Valid ∧
    daysFromCivil c.next.y c.next.m c.next.d = daysFromCivil c.y c.m c.d + 1 := by
  obtain ⟨y, m, d⟩ := c
  obtain ⟨⟨first, last⟩, some, inside⟩ := valid
  dsimp only at first last some inside
  rw [Civil.next]
  by_cases more : d < daysIn y m
  · rw [if_pos more, daysFromCivil_eq, daysFromCivil_eq]
    refine ⟨⟨⟨first, last⟩, Nat.succ_pos _, more⟩, ?_⟩
    simp only [dayOfYear]
    omega
  · rw [if_neg more]
    by_cases december : m < 12
    · rw [if_pos december, daysFromCivil_eq, daysFromCivil_eq]
      refine ⟨⟨⟨Nat.succ_pos _, december⟩, Nat.le_refl 1, ?_⟩, ?_⟩
      · simp only [daysIn]
        split_ifs <;> omega
      · -- Only the step out of February needs the length of the year.
        have february := yearStart_sub_one y
        simp only [daysIn, dayOfYear, monthIndex] at *
        interval_cases m <;> simp at * <;> split_ifs at * <;> omega
    · obtain rfl : m = 12 := by omega
      rw [if_neg december, daysFromCivil_eq, daysFromCivil_eq]
      refine ⟨⟨⟨Nat.le_refl 1, Nat.le_add_left ..⟩, Nat.le_refl 1, Nat.le_add_left 1 30⟩, ?_⟩
      simp [daysIn, dayOfYear, monthIndex] at *
      omega

/-- A day of an era, by its century, its cycle of four years and the year in it. -/
theorem year_of_era {c q r doy : Nat} (hc : c < 4) (hq : q < 25) (hr : r < 4)
    (inside : doy < 365 ∨ doy = 365 ∧ r = 3 ∧ (q < 24 ∨ c = 3)) :
    let doe := 36524 * c + 1461 * q + 365 * r + doy
    (doe - doe / 1460 + doe / 36524 - doe / 146096) / 365 = 100 * c + 4 * q + r := by
  intro doe
  have cycle : doe / 1460 = 25 * c + q + (24 * c + q + 365 * r + doy) / 1460 := by omega
  have century : doe / 36524 - doe / 146096 = c := by
    have fits : 1461 * q + 365 * r + doy < 36524 ∨ c = 3 ∧ doe = 146096 := by omega
    rcases fits with inside | ⟨rfl, same⟩
    · have : doe / 36524 = c := by omega
      omega
    · rw [same]
  omega

theorem floor_146097 (z : Int) :
    (if 0 ≤ z then z else z - 146096).tdiv 146097 = z / 146097 := by
  rw [Int.tdiv_eq_ediv, show Int.sign 146097 = 1 from rfl]
  omega

theorem year_of_days {y : Int} {doy : Nat} (inside : doy < 365 ∨ doy = 365 ∧ leap (y + 1)) :
    let z := yearStart y + doy
    let doe := (z - z / 146097 * 146097).toNat
    let yoe := (doe - doe / 1460 + doe / 36524 - doe / 146096) / 365
    yoe + z / 146097 * 400 = y ∧ doe - (365 * yoe + yoe / 4 - yoe / 100) = doy := by
  obtain ⟨era, c, q, r, hc, hq, hr, rfl⟩ : ∃ (era : Int) (c q r : Nat),
      c < 4 ∧ q < 25 ∧ r < 4 ∧ y = 400 * era + 100 * c + 4 * q + r :=
    ⟨y / 400, (y % 400 / 100).toNat, (y % 100 / 4).toNat, (y % 4).toNat, by omega⟩
  have lastDay : doy < 365 ∨ doy = 365 ∧ r = 3 ∧ (q < 24 ∨ c = 3) := by
    rw [leap] at inside
    omega
  have yoe : 365 * (100 * c + 4 * q + r) + (100 * c + 4 * q + r) / 4 - (100 * c + 4 * q + r) / 100 =
      36524 * c + 1461 * q + 365 * r := by omega
  have whole : yearStart (400 * era + 100 * c + 4 * q + r) + doy =
      146097 * era + (36524 * c + 1461 * q + 365 * r + doy : Nat) := by
    rw [yearStart]
    omega
  have floor : (146097 * era + (36524 * c + 1461 * q + 365 * r + doy : Nat)) / 146097 = era := by
    omega
  have rest : (146097 * era + (36524 * c + 1461 * q + 365 * r + doy : Nat) - era * 146097).toNat =
      36524 * c + 1461 * q + 365 * r + doy := by omega
  dsimp only
  rw [whole, floor, rest, year_of_era hc hq hr lastDay, yoe]
  omega

theorem month_of_day {y : Int} {m d : Nat} (valid : Civil.Valid ⟨y, m, d⟩) :
    (5 * dayOfYear m d + 2) / 153 = monthIndex m ∧
      (dayOfYear m d < 365 ∨ dayOfYear m d = 365 ∧ m ≤ 2 ∧ leap y) := by
  obtain ⟨⟨first, last⟩, some, inside⟩ := valid
  simp only [dayOfYear, daysIn, monthIndex] at *
  by_cases isLeap : leap y <;> interval_cases m <;> simp [isLeap] at * <;> omega

theorem civilFromDays_daysFromCivil {c : Civil} (valid : c.Valid) :
    civilFromDays (daysFromCivil c.y c.m c.d) = c := by
  obtain ⟨y, m, d⟩ := c
  obtain ⟨month, fits⟩ := month_of_day valid
  obtain ⟨⟨first, last⟩, some, -⟩ := valid
  dsimp only at *
  have back : (if monthIndex m < 10 then monthIndex m + 3 else monthIndex m - 9) = m := by
    rw [monthIndex]
    split_ifs <;> omega
  have day : dayOfYear m d - (153 * monthIndex m + 2) / 5 + 1 = d := by
    rw [dayOfYear]
    omega
  have inside : dayOfYear m d < 365 ∨
      dayOfYear m d = 365 ∧ leap ((if m ≤ 2 then y - 1 else y) + 1) := by
    refine fits.imp_right fun ⟨last, early, isLeap⟩ => ⟨last, ?_⟩
    rwa [if_pos early, Int.sub_add_cancel]
  obtain ⟨year, doy⟩ := year_of_days inside
  rw [daysFromCivil_eq, civilFromDays]
  simp only [Int.sub_add_cancel, floor_146097]
  rw [year, doy, month, day, back]
  congr 1
  split_ifs <;> omega

theorem exists_later {c : Civil} (valid : c.Valid) (n : Nat) :
    ∃ c' : Civil, c'.Valid ∧ daysFromCivil c'.y c'.m c'.d = daysFromCivil c.y c.m c.d + n := by
  induction n with
  | zero => exact ⟨c, valid, (Int.add_zero _).symm⟩
  | succ n induction =>
    obtain ⟨c', valid', same⟩ := induction
    exact ⟨c'.next, valid'.next.1, by rw [valid'.next.2, same, Int.add_assoc]; rfl⟩

/-- Every number is the number of a date: some multiple of 400 years before 1970 is
early enough, and the days from there on are counted. -/
theorem exists_civil (z : Int) : ∃ c : Civil, c.Valid ∧ daysFromCivil c.y c.m c.d = z := by
  have early : daysFromCivil (1970 - 400 * z.natAbs) 1 1 = - 146097 * z.natAbs := by
    rw [daysFromCivil_eq, yearStart, show dayOfYear 1 1 = 306 from rfl]
    omega
  obtain ⟨c, valid, same⟩ := @exists_later ⟨1970 - 400 * z.natAbs, 1, 1⟩
    ⟨⟨Nat.le_refl 1, Nat.le_add_left 1 11⟩, Nat.le_refl 1, Nat.le_add_left 1 30⟩
    (z + 146097 * z.natAbs).toNat
  exact ⟨c, valid, by rw [same, early]; omega⟩

theorem daysFromCivil_civilFromDays (z : Int) : (civilFromDays z).Valid ∧
    daysFromCivil (civilFromDays z).y (civilFromDays z).m (civilFromDays z).d = z := by
  obtain ⟨c, valid, rfl⟩ := exists_civil z
  rw [civilFromDays_daysFromCivil valid]
  exact ⟨valid, rfl⟩

theorem civilFromDays_add_one (z : Int) : civilFromDays (z + 1) = (civilFromDays z).next := by
  obtain ⟨valid, same⟩ := daysFromCivil_civilFromDays z
  rw [← civilFromDays_daysFromCivil valid.next.1, valid.next.2, same]

/-! ## Time stamps -/

def pad (width n : Nat) : Text :=
  List.replicate (width - (Nat.toDigits 10 n).length) '0' ++ Nat.toDigits 10 n

def monthNames : List Text :=
  ["Jan", "Feb", "Mar", "Apr", "May", "Jun", "Jul", "Aug", "Sep", "Oct", "Nov", "Dec"].map
    String.toList

/-- The text for a day and the seconds of it. -/
def stampText (c : Civil) (time milliseconds : Nat) (msAbsent : Bool) : Text :=
  pad 2 c.d ++ '-' :: monthNames.getD (c.m - 1) [] ++ '-' :: pad 4 c.y.toNat ++
    ' ' :: pad 2 (time / 3600) ++ ':' :: pad 2 (time / 60 % 60) ++ ':' :: pad 2 (time % 60) ++
    if msAbsent then [] else '.' :: pad 3 milliseconds

def jbaseDays : Int := daysFromCivil 1977 1 1

def timestamp (halfday seconds milliseconds : Nat) (msAbsent : Bool) : Text :=
  let total := seconds + halfday % 2 * 43200
  let days := halfday / 2 + total / 86400
  stampText (civilFromDays (jbaseDays + days)) (total % 86400) milliseconds msAbsent

theorem civilFromDays_jbase (n : Nat) :
    civilFromDays (jbaseDays + n) = Civil.next^[n] ⟨1977, 1, 1⟩ := by
  induction n with
  | zero => rfl
  | succ n induction =>
    rw [Function.iterate_succ_apply', ← induction, ← civilFromDays_add_one, Int.add_assoc]
    rfl

example : timestamp 1 43200 5 false = "02-Jan-1977 00:00:00.005".toList := by decide

end Decnet.Calendar
