import Mathlib.Tactic.Common
import Mathlib.Tactic.IntervalCases

/-!
# The Gregorian calendar

Dates with their validity, the next date, and the number of a date: the days since the first of March
of year 0, in years that start in March. Such a year is placed in its cycle of 400 years by the century,
the four years in the century and the year in those (`Place`).
-/

namespace Rvpn.Gregorian

def isLeap (year : Nat) : Bool :=
  year % 4 = 0 && (year % 100 ≠ 0 || year % 400 = 0)

def daysInMonth (year : Nat) : Nat → Nat
  | 2 => if isLeap year then 29 else 28
  | 4 | 6 | 9 | 11 => 30
  | _ => 31

lemma daysInMonth_pos (year month : Nat) : 1 ≤ daysInMonth year month := by
  unfold daysInMonth
  split
  · split
    · decide
    · decide
  all_goals decide

/-! ### Numbers of days -/

def marchYear (year month : Nat) : Nat :=
  if month ≤ 2 then year - 1 else year

def marchMonth (month : Nat) : Nat :=
  if month ≤ 2 then month + 9 else month - 3

/-- The first day of a year that starts in March. -/
def marchFirst (year : Nat) : Nat :=
  365 * year + year / 4 - year / 100 + year / 400

/-- The day in the year that started in March, counted from 0. -/
def dayOfYear (month day : Nat) : Nat :=
  (153 * marchMonth month + 2) / 5 + day - 1

/-- The days from the first of March of year 0; the year has to be positive. -/
def dayNumber (year month day : Nat) : Nat :=
  marchFirst (marchYear year month) + dayOfYear month day

/-- A year from March ends with the next year's February. -/
lemma marchFirst_succ (year : Nat) :
    marchFirst (year + 1) = marchFirst year + (337 + daysInMonth (year + 1) 2) := by
  have february : daysInMonth (year + 1) 2 = if isLeap (year + 1) then 29 else 28 := rfl
  have fewer : year / 100 ≤ year / 4 := Nat.div_le_div_left (by decide) (by decide)
  rw [marchFirst, marchFirst, Nat.succ_div, Nat.succ_div, Nat.succ_div, february]
  simp only [isLeap, Nat.dvd_iff_mod_eq_zero]
  by_cases four : (year + 1) % 4 = 0
  · by_cases hundred : (year + 1) % 100 = 0
    · by_cases all : (year + 1) % 400 = 0
      · simp [four, hundred, all]
        omega
      · simp [four, hundred, all]
        omega
    · have all : (year + 1) % 400 ≠ 0 := by omega
      simp [four, hundred, all]
      omega
  · have hundred : (year + 1) % 100 ≠ 0 := by omega
    have all : (year + 1) % 400 ≠ 0 := by omega
    simp [four, hundred, all]
    omega

lemma dayNumber_succ_day (year month : Nat) {day : Nat} (positive : 1 ≤ day) :
    dayNumber year month (day + 1) = dayNumber year month day + 1 := by
  rw [dayNumber, dayNumber, dayOfYear, dayOfYear]
  omega

lemma dayNumber_succ_month {year month : Nat} (positive : 0 < year) (first : 1 ≤ month)
    (notLast : month < 12) :
    dayNumber year (month + 1) 1 = dayNumber year month (daysInMonth year month) + 1 := by
  by_cases february : month = 2
  · -- the year that started in March is over
    subst february
    obtain ⟨before, rfl⟩ := Nat.exists_eq_succ_of_ne_zero (Nat.ne_of_gt positive)
    have spent := marchFirst_succ before
    simp only [dayNumber, dayOfYear, marchYear, marchMonth]
    norm_num
    omega
  · -- the same year, and the months from March on start at `(153 * m + 2) / 5`
    simp only [dayNumber, dayOfYear, marchYear, marchMonth]
    interval_cases month
    · norm_num [daysInMonth]
    · exact absurd rfl february
    all_goals norm_num [daysInMonth]

lemma dayNumber_succ_year (year : Nat) :
    dayNumber (year + 1) 1 1 = dayNumber year 12 (daysInMonth year 12) + 1 := by
  simp only [dayNumber, dayOfYear, marchYear, marchMonth]
  norm_num [daysInMonth]

/-- One day in 1460 and one in 36524 are not counted. -/
lemma yearOfCycle_eq {century quad year dayOfYear day : Nat} (centuryLe : century ≤ 3)
    (quadLe : quad ≤ 24) (yearLe : year ≤ 3)
    (last : dayOfYear ≤ 364 ∨ (dayOfYear = 365 ∧ year = 3 ∧ (quad < 24 ∨ century = 3)))
    (eq : day = 36524 * century + 1461 * quad + 365 * year + dayOfYear) :
    (day - day / 1460 + day / 36524 - day / 146096) / 365 = 100 * century + 4 * quad + year := by
  have quads : day / 1460 = 25 * century + quad +
      (24 * century + quad + 365 * year + dayOfYear) / 1460 := by omega
  have rest : (24 * century + quad + 365 * year + dayOfYear) / 1460 ≤ 1 := by omega
  by_cases veryLast : day = 146096
  · omega
  · have first : day / 146096 = 0 := by omega
    have centuries : day / 36524 = century := by omega
    omega

lemma firstOfYear_eq (century : Nat) {quad year : Nat} (quadLe : quad ≤ 24) (yearLe : year ≤ 3) :
    365 * (100 * century + 4 * quad + year) + (100 * century + 4 * quad + year) / 4 -
      (100 * century + 4 * quad + year) / 100 = 36524 * century + 1461 * quad + 365 * year := by
  omega

/-! ### Dates -/

@[ext]
structure Date where
  year : Nat
  month : Nat
  day : Nat
  month_pos : 1 ≤ month
  month_le : month ≤ 12
  day_pos : 1 ≤ day
  day_le : day ≤ daysInMonth year month
  deriving DecidableEq

namespace Date

def next (d : Date) : Date :=
  if later : d.day < daysInMonth d.year d.month then
    { d with day := d.day + 1, day_pos := Nat.le_add_left 1 d.day, day_le := later }
  else if later : d.month < 12 then
    ⟨d.year, d.month + 1, 1, Nat.le_add_left 1 d.month, later, Nat.le_refl 1, daysInMonth_pos _ _⟩
  else ⟨d.year + 1, 1, 1, Nat.le_refl 1, by decide, Nat.le_refl 1, daysInMonth_pos _ _⟩

def after (d : Date) : Nat → Date
  | 0 => d
  | n + 1 => (d.after n).next

def number (d : Date) : Nat :=
  dayNumber d.year d.month d.day

lemma day_le_31 (d : Date) : d.day ≤ 31 := by
  refine d.day_le.trans ?_
  unfold daysInMonth
  split
  · split
    · decide
    · decide
  all_goals decide

lemma year_le_number (d : Date) : d.year ≤ d.number + 1 := by
  rw [number, dayNumber, marchFirst, marchYear]
  split
  · omega
  · omega

lemma year_next (d : Date) : d.year ≤ d.next.year := by
  unfold next
  split
  · exact Nat.le_refl _
  · split
    · exact Nat.le_refl _
    · exact Nat.le_succ _

lemma year_after (d : Date) (n : Nat) : d.year ≤ (d.after n).year := by
  induction n with
  | zero => exact Nat.le_refl _
  | succ n ih => exact ih.trans (year_next _)

lemma number_next (d : Date) (positive : 0 < d.year) : d.next.number = d.number + 1 := by
  unfold next
  split
  · exact dayNumber_succ_day _ _ d.day_pos
  · next last =>
    have day : d.day = daysInMonth d.year d.month := Nat.le_antisymm d.day_le (Nat.le_of_not_lt last)
    rw [number, number, day]
    split
    · next more => exact dayNumber_succ_month positive d.month_pos more
    · next spent =>
      have december : d.month = 12 := Nat.le_antisymm d.month_le (Nat.le_of_not_lt spent)
      rw [december]
      exact dayNumber_succ_year d.year

theorem number_after (d : Date) (positive : 0 < d.year) (n : Nat) :
    (d.after n).number = d.number + n := by
  induction n with
  | zero => rfl
  | succ n ih =>
    rw [after, number_next _ (positive.trans_le (year_after d n)), ih]
    rfl

/-! ### Taking a number apart -/

/-- The place of a date in the cycles, with the day of the year. -/
structure Place (d : Date) (cycle century quad year : Nat) : Prop where
  century_le : century ≤ 3
  quad_le : quad ≤ 24
  year_le : year ≤ 3
  marchYear_eq : marchYear d.year d.month = 400 * cycle + (100 * century + 4 * quad + year)
  -- the last year of four has a leap day, unless it is the last of a century but not of a cycle
  day : dayOfYear d.month d.day ≤ 364 ∨
    (dayOfYear d.month d.day = 365 ∧ year = 3 ∧ (quad < 24 ∨ century = 3))

lemma dayOfYear_le (d : Date) : dayOfYear d.month d.day ≤ 364 ∨
    (dayOfYear d.month d.day = 365 ∧ d.month = 2 ∧ isLeap d.year) := by
  obtain ⟨year, month, day, monthPos, monthLe, dayPos, dayLe⟩ := d
  show dayOfYear month day ≤ 364 ∨ (dayOfYear month day = 365 ∧ month = 2 ∧ isLeap year)
  rw [dayOfYear, marchMonth]
  interval_cases month
  · norm_num [daysInMonth] at dayLe ⊢
    omega
  · cases leap : isLeap year with
    | true =>
      norm_num [daysInMonth, leap] at dayLe ⊢
      omega
    | false =>
      norm_num [daysInMonth, leap] at dayLe ⊢
      omega
  all_goals
    norm_num [daysInMonth] at dayLe ⊢
    omega

lemma exists_place (d : Date) (positive : 0 < d.year) :
    ∃ cycle century quad year, Place d cycle century quad year := by
  obtain ⟨y, eq⟩ : ∃ y, y = marchYear d.year d.month := ⟨_, rfl⟩
  refine ⟨y / 400, y % 400 / 100, y % 100 / 4, y % 4, ?_, ?_, ?_, ?_, ?_⟩
  · omega
  · omega
  · omega
  · omega
  · rcases d.dayOfYear_le with common | ⟨last, february, leap⟩
    · exact .inl common
    · refine .inr ⟨last, ?_⟩
      rw [february, marchYear, if_pos (Nat.le_refl 2)] at eq
      simp only [isLeap, Bool.and_eq_true, Bool.or_eq_true, decide_eq_true_eq] at leap
      omega

/-- A date in its cycle of 400 years, with the number of its day. -/
structure InCycle (d : Date) (cycle year day : Nat) : Prop where
  year_lt : year < 400
  day_lt : day < 146097
  marchYear_eq : marchYear d.year d.month = 400 * cycle + year
  number_eq : d.number = 146097 * cycle + day
  day_eq : day = 365 * year + year / 4 - year / 100 + dayOfYear d.month d.day
  dayOfYear_le : dayOfYear d.month d.day ≤ 365
  -- the year is got from the day by one division, after the leap days are taken out
  year_eq : (day - day / 1460 + day / 36524 - day / 146096) / 365 = year

lemma exists_inCycle (d : Date) (positive : 0 < d.year) : ∃ cycle year day, InCycle d cycle year day := by
  obtain ⟨cycle, century, quad, year, centuryLe, quadLe, yearLe, marchYear, last⟩ :=
    d.exists_place positive
  have first := firstOfYear_eq century quadLe yearLe
  refine ⟨cycle, 100 * century + 4 * quad + year,
    36524 * century + 1461 * quad + 365 * year + dayOfYear d.month d.day, ?_, ?_, marchYear, ?_, ?_, ?_, ?_⟩
  · omega
  · omega
  · rw [number, dayNumber, marchYear, marchFirst]
    omega
  · rw [first]
  · omega
  · exact yearOfCycle_eq centuryLe quadLe yearLe last rfl

/-- The months from March on start at `(153 * m + 2) / 5`. -/
lemma monthOfYear (d : Date) : (5 * dayOfYear d.month d.day + 2) / 153 = marchMonth d.month ∧
      dayOfYear d.month d.day = (153 * marchMonth d.month + 2) / 5 + (d.day - 1) := by
  obtain ⟨year, month, day, monthPos, monthLe, dayPos, dayLe⟩ := d
  show (5 * dayOfYear month day + 2) / 153 = marchMonth month ∧
      dayOfYear month day = (153 * marchMonth month + 2) / 5 + (day - 1)
  have short : month = 2 → day ≤ 29 := by
    rintro rfl
    refine dayLe.trans ?_
    show (if isLeap year then 29 else 28) ≤ 29
    split
    · decide
    · decide
  rw [dayOfYear, marchMonth]
  interval_cases month
  · norm_num [daysInMonth] at dayLe ⊢
    omega
  · norm_num at short ⊢
    omega
  all_goals
    norm_num [daysInMonth] at dayLe ⊢
    omega

end Date
end Rvpn.Gregorian
