import Mathlib.Algebra.GroupWithZero.Nat
import Mathlib.Data.Nat.Init
import Mathlib.Tactic.SplitIfs
import MappedSql.Calendar

/-!
Dates by number. The days are numbered without a gap, the first of January of year 1 being day 1;
the number of a date is known in closed form from the rule for leap years. Steps from day to day
move the number by one, over the ends of months and years too, and no two dates have one number.
-/

namespace MappedSql.Calendar

/-- The days before a year, negative before year 1: every fourth year has one more, of the years
that end a century only every fourth one. -/
def daysBeforeYear (year : Int) : Int :=
  let past := year - 1
  365 * past + past / 4 - past / 100 + past / 400

def daysInYear (year : Int) : Nat :=
  if isLeapYear year then 366 else 365

def daysBeforeMonth (year : Int) (month : Nat) : Nat :=
  ((List.range' 1 (month - 1)).map (daysIn year)).sum

theorem days_before_next_year (year : Int) :
    daysBeforeYear (year + 1) = daysBeforeYear year + daysInYear year := by
  have rule : isLeapYear year = true ↔ year % 4 = 0 ∧ (year % 100 ≠ 0 ∨ year % 400 = 0) := by
    simp [isLeapYear]
  simp only [daysBeforeYear, daysInYear]
  split_ifs with leap
  · rw [rule] at leap
    omega
  · rw [rule] at leap
    omega

theorem days_before_later_year (year later : Int) (before : year < later) :
    daysBeforeYear (year + 1) ≤ daysBeforeYear later := by
  simp only [daysBeforeYear]
  omega

theorem days_before_next_month (year : Int) (month : Nat) (first : 1 ≤ month) :
    daysBeforeMonth year (month + 1) = daysBeforeMonth year month + daysIn year month := by
  obtain ⟨before, rfl⟩ := Nat.exists_eq_add_of_le' first
  simp [daysBeforeMonth, List.range'_1_concat, Nat.add_comm 1 before]

theorem days_before_later_month (year : Int) (month later : Nat) (first : 1 ≤ month)
    (before : month < later) :
    daysBeforeMonth year month + daysIn year month ≤ daysBeforeMonth year later := by
  induction later, before using Nat.le_induction with
  | base => exact Nat.le_of_eq (days_before_next_month year month first).symm
  | succ later reached ih =>
      rw [days_before_next_month year later (by omega)]
      omega

-- Twelve months make up the year.
theorem days_of_months (year : Int) : daysBeforeMonth year 13 = daysInYear year := by
  unfold daysInYear
  cases leap : isLeapYear year <;> simp [daysBeforeMonth, List.range', daysIn, leap]

theorem days_before_december (year : Int) : daysBeforeMonth year 12 + 31 = daysInYear year := by
  have december : daysBeforeMonth year 13 = daysBeforeMonth year 12 + daysIn year 12 :=
    days_before_next_month year 12 (by decide)
  rw [← days_of_months, december, daysIn_december]

namespace Date

def number (date : Date) : Int :=
  daysBeforeYear date.year + daysBeforeMonth date.year date.month + date.day

example : (firstOfYear 1).number = 1 ∧ epoch.number = 719163 := by decide

theorem day_within_year (date : Date) :
    daysBeforeMonth date.year date.month + date.day ≤ daysInYear date.year := by
  have month := days_before_later_month date.year date.month 13 date.month_pos
    (Nat.lt_succ_of_le date.month_le)
  have day := date.day_le
  rw [days_of_months] at month
  omega

theorem number_first (year : Int) : (firstOfYear year).number = daysBeforeYear year + 1 := by
  simp [number, firstOfYear, daysBeforeMonth]

theorem number_next (date : Date) : date.next.number = date.number + 1 := by
  obtain ⟨year, month, day, monthPos, monthLe, dayPos, dayLe⟩ := date
  unfold next
  split_ifs with within other
  · simp only [number]
    omega
  · have month := days_before_next_month year month monthPos
    dsimp only at within
    simp only [number]
    omega
  · obtain rfl : month = 12 := by
      dsimp only at other
      omega
    have december := days_before_december year
    have later := days_before_next_year year
    rw [daysIn_december] at dayLe within
    dsimp only at within
    rw [number_first]
    simp only [number]
    omega

theorem number_previous (date : Date) : date.previous.number = date.number - 1 := by
  obtain ⟨year, month, day, monthPos, monthLe, dayPos, dayLe⟩ := date
  unfold previous
  split_ifs with within other
  · simp only [number]
    omega
  · have month := days_before_next_month year (month - 1) (Nat.le_sub_one_of_lt other)
    dsimp only at within
    rw [Nat.sub_add_cancel monthPos] at month
    simp only [number]
    omega
  · obtain rfl : month = 1 := by
      dsimp only at other
      omega
    have december := days_before_december (year - 1)
    have later := days_before_next_year (year - 1)
    have january : daysBeforeMonth year 1 = 0 := rfl
    dsimp only at within
    rw [Int.sub_add_cancel] at later
    simp only [number]
    omega

theorem number_walk (step : Date → Date) (change : Int)
    (each : ∀ date, (step date).number = date.number + change) (count : Nat) (date : Date) :
    (walk step count date).number = date.number + count * change := by
  induction count generalizing date with
  | zero => simp [walk]
  | succ count ih =>
      rw [walk, ih, each]
      rw [Int.add_assoc, Int.natCast_succ, Int.add_mul, Int.one_mul, Int.add_comm change]

theorem number_add_days (date : Date) (days : Int) :
    (date.addDays days).number = date.number + days := by
  cases days with
  | ofNat count =>
      rw [addDays, number_walk next 1 number_next]
      simp
  | negSucc count =>
      rw [addDays, number_walk previous (-1) number_previous]
      omega

theorem year_of_number (first second : Date) (same : first.number = second.number) :
    ¬ first.year < second.year := by
  intro before
  have within := first.day_within_year
  have next := days_before_next_year first.year
  have later := days_before_later_year first.year second.year before
  have day := second.day_pos
  simp only [number] at same
  omega

theorem month_of_number (first second : Date) (same : first.number = second.number)
    (year : first.year = second.year) : ¬ first.month < second.month := by
  intro before
  have later := days_before_later_month first.year first.month second.month first.month_pos before
  have within := first.day_le
  have day := second.day_pos
  simp only [number, ← year] at same
  omega

-- The days of a year lie between those before it and those before the next one, so the years agree;
-- then the months do by the same argument, and the days are what is left.
theorem number_injective (first second : Date) (same : first.number = second.number) :
    first = second := by
  have year : first.year = second.year :=
    Int.le_antisymm (Int.not_lt.mp (second.year_of_number first same.symm))
      (Int.not_lt.mp (first.year_of_number second same))
  have month : first.month = second.month :=
    Nat.le_antisymm (Nat.not_lt.mp (second.month_of_number first same.symm year.symm))
      (Nat.not_lt.mp (first.month_of_number second same year))
  have day : first.day = second.day := by
    simp only [number, year, month] at same
    omega
  cases first
  cases second
  simp_all

-- What a calendar is relied on for: there is one date so many days later, over any number of months
-- and years.
theorem add_days_iff (date later : Date) (days : Int) :
    later.number = date.number + days ↔ later = date.addDays days := by
  rw [← date.number_add_days]
  exact ⟨later.number_injective _, congrArg number⟩

end Date

end MappedSql.Calendar
