import Rvpn.Config.Util
import Rvpn.Lib.Decimal
import Rvpn.Lib.Gregorian
import Rvpn.Server.UsageHistory

/-!
# The days of the usage history

Model of `utc_day` and `parse_day_number` in `apps/rvpn-server/src/usage_history.rs`. Each operation
on `i64` is checked; divisions are those of Rust, towards zero. Both conversions are compared with the
number of a date in the Gregorian calendar, and so with each other.
-/

namespace Rvpn.Server
open Checked Gregorian

/-- The numerator of the era: `if z >= 0 { z } else { z - back }`. -/
def eraBase (z back : Int) : Checked Int :=
  if 0 ≤ z then .ok z else i64 (z - back)

/-- `era` and `doe` of `utc_day`: the cycle of 400 years and the day in it. -/
def eraAndDay (z : Int) : Checked (Int × Int) := do
  let base ← eraBase z 146096
  let era := base.tdiv 146097
  let eraDays ← i64 (era * 146097)
  let doe ← i64 (z - eraDays)
  return (era, doe)

/-- `yoe` and `doy` of `utc_day`: the year of the cycle and the day in it. -/
def yearAndDay (doe : Int) : Checked (Int × Int) := do
  let yoe ← i64 (doe - doe.tdiv 1460)
  let yoe ← i64 (yoe + doe.tdiv 36524)
  let yoe ← i64 (yoe - doe.tdiv 146096)
  let yoe := yoe.tdiv 365
  let before ← i64 (365 * yoe)
  let before ← i64 (before + yoe.tdiv 4)
  let before ← i64 (before - yoe.tdiv 100)
  let doy ← i64 (doe - before)
  return (yoe, doy)

/-- `month` and `day` of `utc_day`. -/
def monthAndDay (doy : Int) : Checked (Int × Int) := do
  let mp ← i64 (5 * doy)
  let mp ← i64 (mp + 2)
  let mp := mp.tdiv 153
  let first ← i64 (153 * mp)
  let first ← i64 (first + 2)
  let day ← i64 (doy - first.tdiv 5)
  let day ← i64 (day + 1)
  let month ← i64 (mp + if mp < 10 then 3 else -9)
  return (month, day)

def civil (days : Int) : Checked (Int × Int × Int) := do
  let z ← i64 (days + 719468)
  let (era, doe) ← eraAndDay z
  let (yoe, doy) ← yearAndDay doe
  let eraYears ← i64 (era * 400)
  let year ← i64 (yoe + eraYears)
  let (month, day) ← monthAndDay doy
  let year ← i64 (year + if month ≤ 2 then 1 else 0)
  return (year, month, day)

/-- `utc_day`, for the day number of the clock. -/
def utcDay (dayNumber : Nat) : Checked String := do
  let (year, month, day) ← civil (asI64 dayNumber)
  return String.ofList (Decimal.paddedInt 4 year ++
    '-' :: (Decimal.paddedInt 2 month ++ '-' :: Decimal.paddedInt 2 day))

/-- `era` and `yoe` of `parse_day_number`. -/
def eraAndYear (y : Int) : Checked (Int × Int) := do
  let base ← eraBase y 399
  let era := base.tdiv 400
  let eraYears ← i64 (era * 400)
  let yoe ← i64 (y - eraYears)
  return (era, yoe)

/-- `doy` of `parse_day_number`. -/
def dayOfMarchYear (month day : Int) : Checked Int := do
  let mp ← i64 (month + if month > 2 then -3 else 9)
  let doy ← i64 (153 * mp)
  let doy ← i64 (doy + 2)
  let doy ← i64 (doy.tdiv 5 + day)
  i64 (doy - 1)

/-- The day number of `parse_day_number` from era, year and day. -/
def daysOfEra (era yoe doy : Int) : Checked (Option Nat) := do
  let doe ← i64 (yoe * 365)
  let doe ← i64 (doe + yoe.tdiv 4)
  let doe ← i64 (doe - yoe.tdiv 100)
  let doe ← i64 (doe + doy)
  let days ← i64 (era * 146097)
  let days ← i64 (days + doe)
  let days ← i64 (days - 719468)
  return if 0 ≤ days then some days.toNat else none

/-- The day number of `parse_day_number` from year, month and day. -/
def daysFromCivil (year month day : Int) : Checked (Option Nat) := do
  let y ← i64 (year - if month ≤ 2 then 1 else 0)
  let (era, yoe) ← eraAndYear y
  let doy ← dayOfMarchYear month day
  daysOfEra era yoe doy

def parseI64 (cs : List Char) : Option Int :=
  Decimal.parseInt 9223372036854775807 cs

/-- `parse_day_number`. -/
def parseDayNumber (day : String) : Checked (Option Nat) :=
  match (day.toList.splitOn '-').map parseI64 with
  | [some year, some month, some day] =>
    if (1 ≤ month ∧ month ≤ 12) ∧ (1 ≤ day ∧ day ≤ 31) then daysFromCivil year month day
    else .ok none
  | _ => .ok none

/-- The days as the server names and reads them; none after a panic. -/
def utcCalendar : Calendar where
  utcDay dayNumber := (utcDay dayNumber).toOption.getD ""
  parseDayNumber day := (parseDayNumber day).toOption.join

lemma utcCalendar_parseDayNumber (day : String) :
    utcCalendar.parseDayNumber day = (parseDayNumber day).toOption.join :=
  rfl

/-! ### The conversions against the number of a date -/

lemma i64_bind {α : Type} {n : Int} {f : Int → Checked α} (low : -9223372036854775808 ≤ n)
    (high : n ≤ 9223372036854775807) : (i64 n >>= f) = f n := by
  rw [i64, if_pos ⟨low, high⟩, bind_ok]

lemma eraBase_of_nonneg {z back : Int} (nonneg : 0 ≤ z) : eraBase z back = .ok z :=
  if_pos nonneg

variable {cycle doy yoe : Nat}

lemma eraAndDay_eq {doe : Nat} (small : cycle ≤ 63116320000000) (inCycle : doe < 146097) :
    eraAndDay ((146097 * cycle + doe : Nat) : Int) = .ok ((cycle : Int), (doe : Int)) := by
  have era : ((146097 * cycle + doe : Nat) : Int) / 146097 = cycle := by omega
  have day : ((146097 * cycle + doe : Nat) : Int) - cycle * 146097 = doe := by omega
  have nonneg : 0 ≤ ((146097 * cycle + doe : Nat) : Int) := Int.natCast_nonneg _
  rw [eraAndDay, eraBase_of_nonneg nonneg, bind_ok, Int.tdiv_eq_ediv_of_nonneg nonneg]
  simp only [era]
  rw [i64_bind (by omega) (by omega), day, i64_bind (by omega) (by omega), pure_eq]

lemma yearAndDay_eq {doe : Nat} (inCycle : doe < 146097)
    (isYoe : (doe - doe / 1460 + doe / 36524 - doe / 146096) / 365 = yoe) (inYears : yoe < 400)
    (isDoy : doe = 365 * yoe + yoe / 4 - yoe / 100 + doy) :
    yearAndDay doe = .ok ((yoe : Int), (doy : Int)) := by
  have year : ((doe : Int) - (doe : Int) / 1460 + (doe : Int) / 36524 - (doe : Int) / 146096) / 365 =
      yoe := by omega
  have day : (doe : Int) - (365 * (yoe : Int) + (yoe : Int) / 4 - (yoe : Int) / 100) = doy := by
    omega
  clear isYoe isDoy
  simp only [yearAndDay, Int.tdiv_eq_ediv_of_nonneg (Int.natCast_nonneg doe)]
  rw [i64_bind (by omega) (by omega), i64_bind (by omega) (by omega), i64_bind (by omega) (by omega),
    Int.tdiv_eq_ediv_of_nonneg (by omega), year]
  simp only [Int.tdiv_eq_ediv_of_nonneg (Int.natCast_nonneg yoe)]
  rw [i64_bind (by omega) (by omega), i64_bind (by omega) (by omega), i64_bind (by omega) (by omega),
    day, i64_bind (by omega) (by omega), pure_eq]

lemma monthAndDay_eq {mp month day : Nat} (inYear : doy ≤ 365) (isMonth : (5 * doy + 2) / 153 = mp)
    (isDay : doy = (153 * mp + 2) / 5 + (day - 1)) (first : 1 ≤ day)
    (isMonth' : month = if mp < 10 then mp + 3 else mp - 9) :
    monthAndDay doy = .ok ((month : Int), (day : Int)) := by
  have months : (5 * (doy : Int) + 2) / 153 = mp := by omega
  have within : mp < 12 := by omega
  have days : (doy : Int) - (153 * (mp : Int) + 2) / 5 + 1 = day := by omega
  have fromMarch : (mp : Int) + (if (mp : Int) < 10 then 3 else -9) = month := by
    by_cases early : mp < 10
    · rw [if_pos early] at isMonth'
      rw [if_pos (by omega)]
      omega
    · rw [if_neg early] at isMonth'
      rw [if_neg (by omega)]
      omega
  simp only [monthAndDay]
  rw [i64_bind (by omega) (by omega), i64_bind (by omega) (by omega),
    Int.tdiv_eq_ediv_of_nonneg (by omega), months, i64_bind (by omega) (by omega),
    i64_bind (by omega) (by omega), Int.tdiv_eq_ediv_of_nonneg (by omega),
    i64_bind (by omega) (by omega), i64_bind (by omega) (by omega), days, fromMarch,
    i64_bind (by omega) (by omega), pure_eq]

lemma month_of_marchMonth (d : Date) : d.month =
    if marchMonth d.month < 10 then marchMonth d.month + 3 else marchMonth d.month - 9 := by
  have first := d.month_pos
  have last := d.month_le
  rw [marchMonth]
  by_cases early : d.month ≤ 2
  · rw [if_pos early, if_neg (by omega)]
    omega
  · rw [if_neg early, if_pos (by omega)]
    omega

lemma year_of_marchYear (d : Date) (positive : 0 < d.year)
    (eq : marchYear d.year d.month = 400 * cycle + yoe) :
    (d.year : Int) = (yoe + cycle * 400 : Int) + if (d.month : Int) ≤ 2 then 1 else 0 := by
  rw [marchYear] at eq
  by_cases early : d.month ≤ 2
  · rw [if_pos early] at eq
    rw [if_pos (by omega)]
    omega
  · rw [if_neg early] at eq
    rw [if_neg (by omega)]
    omega

lemma civil_number (d : Date) (positive : 0 < d.year) (small : d.number ≤ 4611686018427387904) :
    civil (d.number - 719468) = .ok ((d.year : Int), (d.month : Int), (d.day : Int)) := by
  obtain ⟨cycle, yoe, doe, place⟩ := d.exists_inCycle positive
  have yoeLt := place.year_lt
  have cycles : cycle ≤ 63116320000000 := by
    have := place.number_eq
    omega
  have year := year_of_marchYear d positive place.marchYear_eq
  have within : -1 ≤ (if (d.month : Int) ≤ 2 then 1 else 0 : Int) ∧
      (if (d.month : Int) ≤ 2 then 1 else 0 : Int) ≤ 1 := by
    split
    · decide
    · decide
  rw [civil, Int.sub_add_cancel, i64_bind (by omega) (by omega), place.number_eq,
    eraAndDay_eq cycles place.day_lt, bind_ok]
  simp only [yearAndDay_eq place.day_lt place.year_eq yoeLt place.day_eq, bind_ok]
  rw [i64_bind (by omega) (by omega), i64_bind (by omega) (by omega),
    monthAndDay_eq place.dayOfYear_le d.monthOfYear.1 d.monthOfYear.2 d.day_pos (month_of_marchMonth d),
    bind_ok]
  simp only [year]
  rw [i64_bind (by omega) (by omega), pure_eq]

lemma eraAndYear_eq (small : cycle ≤ 63116320000000) (inYears : yoe < 400) :
    eraAndYear (yoe + cycle * 400) = .ok ((cycle : Int), (yoe : Int)) := by
  have era : ((yoe : Int) + cycle * 400) / 400 = cycle := by omega
  have year : ((yoe : Int) + cycle * 400) - cycle * 400 = yoe := by omega
  have nonneg : 0 ≤ (yoe : Int) + cycle * 400 := by omega
  rw [eraAndYear, eraBase_of_nonneg nonneg, bind_ok, Int.tdiv_eq_ediv_of_nonneg nonneg]
  simp only [era]
  rw [i64_bind (by omega) (by omega), year, i64_bind (by omega) (by omega), pure_eq]

lemma dayOfMarchYear_eq (d : Date) :
    dayOfMarchYear d.month d.day = .ok (dayOfYear d.month d.day : Int) := by
  have firstMonth := d.month_pos
  have lastMonth := d.month_le
  have firstDay := d.day_pos
  have last := d.dayOfYear_le
  have month : (d.month : Int) + (if (d.month : Int) > 2 then -3 else 9) = marchMonth d.month := by
    rw [marchMonth]
    by_cases early : d.month ≤ 2
    · rw [if_pos early, if_neg (by omega)]
      omega
    · rw [if_neg early, if_pos (by omega)]
      omega
  have months : marchMonth d.month ≤ 11 := by omega
  have day : (153 * (marchMonth d.month : Int) + 2) / 5 + d.day - 1 = dayOfYear d.month d.day := by
    rw [d.monthOfYear.2]
    omega
  rw [dayOfMarchYear, month, i64_bind (by omega) (by omega), i64_bind (by omega) (by omega),
    i64_bind (by omega) (by omega), Int.tdiv_eq_ediv_of_nonneg (by omega),
    i64_bind (by omega) (by omega), day, i64, if_pos ⟨by omega, by omega⟩]

lemma daysOfEra_eq {n : Nat} (small : cycle ≤ 63116320000000) (inYears : yoe < 400)
    (inYear : doy ≤ 365)
    (number : 146097 * cycle + (365 * yoe + yoe / 4 - yoe / 100 + doy) = 719468 + n) :
    daysOfEra cycle yoe doy = .ok (some n) := by
  have days : (cycle : Int) * 146097 + ((yoe : Int) * 365 + (yoe : Int) / 4 - (yoe : Int) / 100 + doy) -
      719468 = n := by omega
  clear number
  simp only [daysOfEra, Int.tdiv_eq_ediv_of_nonneg (Int.natCast_nonneg yoe)]
  rw [i64_bind (by omega) (by omega), i64_bind (by omega) (by omega), i64_bind (by omega) (by omega),
    i64_bind (by omega) (by omega), i64_bind (by omega) (by omega), i64_bind (by omega) (by omega), days,
    i64_bind (by omega) (by omega), if_pos (Int.natCast_nonneg n), pure_eq, Int.toNat_natCast]

lemma daysFromCivil_number (d : Date) {n : Nat} (positive : 0 < d.year) (number : d.number = 719468 + n)
    (small : n ≤ 4611686018427387904) : daysFromCivil d.year d.month d.day = .ok (some n) := by
  obtain ⟨cycle, yoe, doe, place⟩ := d.exists_inCycle positive
  have yoeLt := place.year_lt
  have total : 146097 * cycle + (365 * yoe + yoe / 4 - yoe / 100 + dayOfYear d.month d.day) =
      719468 + n := by
    rw [← place.day_eq, ← place.number_eq, number]
  have cycles : cycle ≤ 63116320000000 := by omega
  have year : (d.year : Int) - (if (d.month : Int) ≤ 2 then 1 else 0) = yoe + cycle * 400 := by
    rw [year_of_marchYear d positive place.marchYear_eq]
    omega
  rw [daysFromCivil, year, i64_bind (by omega) (by omega), eraAndYear_eq cycles yoeLt, bind_ok]
  show (dayOfMarchYear d.month d.day >>= fun doy => daysOfEra cycle yoe doy) = .ok (some n)
  rw [dayOfMarchYear_eq, bind_ok, daysOfEra_eq cycles yoeLt place.dayOfYear_le total]

/-! ### The texts -/

def epoch : Date :=
  ⟨1970, 1, 1, Nat.one_pos, Nat.le_add_left 1 11, Nat.one_pos, by decide⟩

def dateText (d : Date) : String :=
  String.ofList (Decimal.padded 4 d.year ++
    '-' :: (Decimal.padded 2 d.month ++ '-' :: Decimal.padded 2 d.day))

/-- The last day number of a clock with 64 bits of seconds. -/
def lastDay : Nat :=
  u64Max / 86400

lemma number_epoch_after (n : Nat) : (epoch.after n).number = 719468 + n :=
  Date.number_after epoch (by decide) n

lemma year_epoch_after (n : Nat) : 0 < (epoch.after n).year :=
  Nat.lt_of_lt_of_le (by decide) (Date.year_after epoch n)

lemma paddedInt_natCast (width n : Nat) : Decimal.paddedInt width n = Decimal.padded width n := by
  rw [Decimal.paddedInt, if_neg (by omega), Int.natAbs_natCast]

lemma utcDay_eq {n : Nat} (clock : n ≤ lastDay) : utcDay n = .ok (dateText (epoch.after n)) := by
  have small : n ≤ 213503982334601 := clock
  have days : asI64 n = ((epoch.after n).number : Int) - 719468 := by
    rw [asI64_of_lt (by omega), number_epoch_after]
    omega
  have date := civil_number (epoch.after n) (year_epoch_after n) (by
    rw [number_epoch_after]
    omega)
  rw [utcDay, days, date, bind_ok]
  simp only [paddedInt_natCast]
  rfl

lemma minus_notMem_padded (width n : Nat) : '-' ∉ Decimal.padded width n := by
  intro mem
  cases Decimal.isDigit_of_mem_padded mem

lemma splitOn_dateText (d : Date) : (dateText d).toList.splitOn '-' =
    [Decimal.padded 4 d.year, Decimal.padded 2 d.month, Decimal.padded 2 d.day] := by
  rw [dateText, String.toList_ofList,
    List.splitOn_append_cons_self_of_not_mem (minus_notMem_padded _ _),
    List.splitOn_append_cons_self_of_not_mem (minus_notMem_padded _ _),
    List.splitOn_eq_singleton (minus_notMem_padded _ _)]

lemma parseDayNumber_dateText (d : Date) {n : Nat} (positive : 0 < d.year)
    (number : d.number = 719468 + n) (small : n ≤ 4611686018427387904) :
    parseDayNumber (dateText d) = .ok (some n) := by
  have firstMonth := d.month_pos
  have lastMonth := d.month_le
  have firstDay := d.day_pos
  have lastDay := d.day_le_31
  have year : d.year ≤ 9223372036854775807 := by
    have := d.year_le_number
    omega
  rw [parseDayNumber, splitOn_dateText]
  simp only [List.map_cons, List.map_nil, parseI64, Decimal.parseInt_padded year,
    Decimal.parseInt_padded (show d.month ≤ 9223372036854775807 by omega),
    Decimal.parseInt_padded (show d.day ≤ 9223372036854775807 by omega)]
  rw [if_pos (by omega), daysFromCivil_number d positive number small]

lemma parseDayNumber_utcDay {n : Nat} (clock : n ≤ lastDay) :
    parseDayNumber (dateText (epoch.after n)) = .ok (some n) := by
  have small : n ≤ 213503982334601 := clock
  exact parseDayNumber_dateText _ (year_epoch_after n) (number_epoch_after n) (by omega)

/-- The text of a day names the date so many days after 1 January 1970, is read back as that number,
and is pruned iff it is not one of the last `retention_days` days. -/
theorem utcDay_denotes (n : Nat) (clock : n ≤ lastDay) : utcDay n = .ok (dateText (epoch.after n)) ∧
      parseDayNumber (dateText (epoch.after n)) = .ok (some n) ∧
      ∀ today ≤ lastDay, ∀ history : UsageHistory,
        (history.prune utcCalendar today).days.lookup (dateText (epoch.after n)) =
          if n ≤ today ∧ today < n + history.retentionDays.toNat then
            history.days.lookup (dateText (epoch.after n)) else none := by
  refine ⟨utcDay_eq clock, parseDayNumber_utcDay clock, ?_⟩
  intro today _ history
  have parsed : utcCalendar.parseDayNumber (dateText (epoch.after n)) = some n := by
    rw [utcCalendar_parseDayNumber, parseDayNumber_utcDay clock]
    rfl
  simp only [UsageHistory.prune, HashMap.lookup_retain, UsageHistory.retains, parsed]
  have same : n ≤ today ∧ today - n < history.retentionDays.toNat ↔
      n ≤ today ∧ today < n + history.retentionDays.toNat := by omega
  simp only [same]
  cases history.days.lookup (dateText (epoch.after n)) with
  | none => simp
  | some names =>
    rw [Option.filter_some]
    split
    · next kept => rw [if_pos (of_decide_eq_true kept)]
    · next dropped => rw [if_neg (of_decide_eq_false (Bool.eq_false_iff.2 dropped))]

/-- Day 59, the first of March 1970. -/
theorem utcDay_denotes_first_of_march :
    utcDay 59 = .ok "1970-03-01" ∧ parseDayNumber "1970-03-01" = .ok (some 59) := by
  have text : dateText (epoch.after 59) = "1970-03-01" := by decide +kernel
  obtain ⟨named, read, _⟩ := utcDay_denotes 59 (by decide)
  rw [text] at named read
  exact ⟨named, read⟩

end Rvpn.Server
