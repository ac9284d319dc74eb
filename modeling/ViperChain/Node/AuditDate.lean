import ViperChain.Bytes
import ViperChain.Library.Calendar
import ViperChain.Library.TextDigits

/-!
The date in the name of an audit file, counted from the first of March of year 0 in eras of 400
years. A `none` is a panic.
-/

namespace ViperChain.Audit

open Calendar TextDigits

section Arithmetic

def checkI64 (value : Int) : Option Int :=
  if -2 ^ 63 ≤ value ∧ value < 2 ^ 63 then some value else none

def addU64 (left right : Nat) : Option Nat := if left + right ≤ u64Max then some (left + right) else none

def subU64 (left right : Nat) : Option Nat := if right ≤ left then some (left - right) else none

def mulU64 (left right : Nat) : Option Nat := if left * right ≤ u64Max then some (left * right) else none

/-- `as i64` of a `u64`, which wraps. -/
def asI64 (value : Nat) : Int := if value < 2 ^ 63 then value else value - 2 ^ 64

/-- `as u64` of an `i64`, which wraps. -/
def asU64 (value : Int) : Nat := (value % 2 ^ 64).toNat

end Arithmetic

section Date

def yearOfEra (doe : Nat) : Option Nat := do
  let kept ← subU64 doe (doe / 1460)
  let grown ← addU64 kept (doe / 36524)
  let days ← subU64 grown (doe / 146096)
  return days / 365

def dayOfYear (doe yoe : Nat) : Option Nat := do
  let plain ← mulU64 365 yoe
  let leaps ← addU64 plain (yoe / 4)
  let start ← subU64 leaps (yoe / 100)
  subU64 doe start

def monthAndDay (doy : Nat) : Option (Nat × Nat) := do
  let scaled ← mulU64 5 doy
  let numerator ← addU64 scaled 2
  let mp := numerator / 153
  let months ← mulU64 153 mp
  let before ← addU64 months 2
  let passed ← subU64 doy (before / 5)
  let d ← addU64 passed 1
  let m ← (if mp < 10 then addU64 mp 3 else subU64 mp 9)
  return (m, d)

def civilFromDays (days : Int) : Option (Int × Nat × Nat) := do
  let z ← checkI64 (days + 719468)
  let dividend ← (if 0 ≤ z then some z else checkI64 (z - 146096))
  let era := dividend.tdiv 146097
  let eraStart ← checkI64 (era * 146097)
  let offset ← checkI64 (z - eraStart)
  let doe := asU64 offset
  let yoe ← yearOfEra doe
  let eraYears ← checkI64 (era * 400)
  let y ← checkI64 (asI64 yoe + eraYears)
  let doy ← dayOfYear doe yoe
  let (m, d) ← monthAndDay doy
  let y ← (if m ≤ 2 then checkI64 (y + 1) else some y)
  return (y, m, d)

def signedDecimal (width : Nat) (number : Int) : List Char :=
  if number < 0 then '-' :: decimal (width - 1) number.natAbs else decimal width number.natAbs

def ymd (unixSecs : Nat) : Option String := do
  let (y, m, d) ← civilFromDays (asI64 (unixSecs / 86400))
  return String.ofList (signedDecimal 4 y ++ decimal 2 m ++ decimal 2 d)

end Date

section Arithmetic

variable {left right : Nat}

theorem addU64_eq (fits : left + right ≤ u64Max) : addU64 left right = some (left + right) :=
  if_pos fits

theorem subU64_eq (fits : right ≤ left) : subU64 left right = some (left - right) := if_pos fits

theorem mulU64_eq (fits : left * right ≤ u64Max) : mulU64 left right = some (left * right) :=
  if_pos fits

theorem checkI64_eq {value : Int} (low : -2 ^ 63 ≤ value) (high : value < 2 ^ 63) :
    checkI64 value = some value := if_pos ⟨low, high⟩

theorem asI64_eq {value : Nat} (fits : value < 2 ^ 63) : asI64 value = value := if_pos fits

end Arithmetic

section Era

variable {doe century cycle year doy : Nat}

/-- The place of a day in its era. Years begin in March; only the last year of a cycle of four
has a leap day, and not at the end of a century other than the fourth. -/
structure EraPlace (doe century cycle year doy : Nat) : Prop where
  split : doe = 36524 * century + 1461 * cycle + 365 * year + doy
  centuries : century ≤ 3
  cycles : cycle ≤ 24
  years : year ≤ 3
  days : doy ≤ 365
  leap : doy = 365 → year = 3 ∧ (cycle < 24 ∨ century = 3)

theorem exists_eraPlace (inside : doe < 146097) :
    ∃ century cycle year doy, EraPlace doe century cycle year doy := by
  let century := min (doe / 36524) 3
  let rest := doe - 36524 * century
  let year := min (rest % 1461 / 365) 3
  refine ⟨century, rest / 1461, year, rest % 1461 - 365 * year, ?_⟩
  constructor <;> omega

theorem EraPlace.lt (place : EraPlace doe century cycle year doy) : doe < 146097 := by
  obtain ⟨split, centuries, cycles, years, days, leap⟩ := place
  omega

theorem million_le_u64Max : 1000000 ≤ u64Max := by decide

theorem EraPlace.centuryOf (place : EraPlace doe century cycle year doy) :
    doe / 36524 = century + doe / 146096 := by
  have small := place.lt
  obtain ⟨split, centuries, cycles, years, days, leap⟩ := place
  by_cases last : doe = 146096
  · have fourth : century = 3 := by omega
    rw [last, fourth]
  · have inCentury : 1461 * cycle + 365 * year + doy < 36524 := by
      by_cases leapDay : doy = 365
      · obtain ⟨_, _ | _⟩ := leap leapDay <;> omega
      · omega
    have shape : doe = 36524 * century + (1461 * cycle + 365 * year + doy) := by omega
    rw [Nat.div_eq_of_lt (show doe < 146096 by omega), shape, Nat.mul_add_div (by decide),
      Nat.div_eq_of_lt inCentury]

theorem EraPlace.leapsOf (place : EraPlace doe century cycle year doy) :
    ∃ late, doe / 1460 = 25 * century + cycle + late ∧ late ≤ doy ∧ doy ≤ 364 + late := by
  obtain ⟨split, centuries, cycles, years, days, leap⟩ := place
  have shape : doe = 1460 * (25 * century + cycle) + (24 * century + cycle + 365 * year + doy) := by
    omega
  refine ⟨(24 * century + cycle + 365 * year + doy) / 1460, ?_, ?_, ?_⟩
  · rw [shape, Nat.mul_add_div (by decide)]
  · clear shape split
    omega
  · clear shape split
    omega

theorem EraPlace.yearOfEra (place : EraPlace doe century cycle year doy) :
    yearOfEra doe = some (100 * century + 4 * cycle + year) := by
  have kept := subU64_eq (Nat.div_le_self doe 1460)
  have grown : addU64 (doe - doe / 1460) (doe / 36524) = some (doe - doe / 1460 + doe / 36524) := by
    have small := place.lt
    have room := million_le_u64Max
    exact addU64_eq (by omega)
  obtain ⟨late, leaps, early, inYear⟩ := place.leapsOf
  have whole := place.centuryOf
  have split := place.split
  have counted : subU64 (doe - doe / 1460 + doe / 36524) (doe / 146096) =
      some (365 * (100 * century + 4 * cycle + year) + (doy - late)) := by
    rw [whole, leaps, subU64_eq (by omega)]
    refine congrArg some ?_
    omega
  simp only [Audit.yearOfEra, kept, grown, counted, Option.bind_eq_bind, Option.bind_some,
    Option.pure_def]
  rw [Nat.mul_add_div (by decide), Nat.div_eq_of_lt (by omega), Nat.add_zero]

theorem EraPlace.dayOfYear (place : EraPlace doe century cycle year doy) :
    dayOfYear doe (100 * century + 4 * cycle + year) = some doy := by
  have room := million_le_u64Max
  obtain ⟨split, centuries, cycles, years, days, leap⟩ := place
  have leaps : (100 * century + 4 * cycle + year) / 4 = 25 * century + cycle := by omega
  have skipped : (100 * century + 4 * cycle + year) / 100 = century := by omega
  have plain := mulU64_eq (show 365 * (100 * century + 4 * cycle + year) ≤ u64Max by omega)
  have start : 365 * (100 * century + 4 * cycle + year) + (25 * century + cycle) - century =
      36524 * century + 1461 * cycle + 365 * year := by omega
  simp only [Audit.dayOfYear, leaps, skipped, plain, Option.bind_eq_bind, Option.bind_some,
    addU64_eq (show 365 * (100 * century + 4 * cycle + year) + (25 * century + cycle) ≤ u64Max by omega),
    subU64_eq (show century ≤ 365 * (100 * century + 4 * cycle + year) + (25 * century + cycle) by omega),
    start, subU64_eq (show 36524 * century + 1461 * cycle + 365 * year ≤ doe by omega)]
  refine congrArg some ?_
  omega

end Era

section March

variable {year doy : Nat}

theorem daysInMonth_march (year : Nat) : ∀ mp ≤ 9,
    (153 * mp + 2) / 5 + daysInMonth year (mp + 3) = (153 * (mp + 1) + 2) / 5 := by
  intro mp inside
  interval_cases mp <;> rfl

theorem daysBeforeMonth_march (year : Nat) : ∀ mp ≤ 10,
    daysBeforeMonth year (mp + 3) = daysBeforeMonth year 3 + (153 * mp + 2) / 5 := by
  intro mp inside
  induction mp with
  | zero => rfl
  | succ mp ih =>
      have length := daysInMonth_march year mp (by omega)
      rw [show mp + 1 + 3 = mp + 2 + 2 by omega, daysBeforeMonth_succ, show mp + 2 + 1 = mp + 3 from rfl,
        ih (by omega)]
      omega

theorem monthAndDay_eq (inside : doy ≤ 365) :
    let mp := (5 * doy + 2) / 153
    monthAndDay doy = some (if mp < 10 then mp + 3 else mp - 9, doy - (153 * mp + 2) / 5 + 1) := by
  intro mp
  have room := million_le_u64Max
  have few : mp ≤ 11 := by omega
  have passed : (153 * mp + 2) / 5 ≤ doy := by omega
  simp only [monthAndDay, mulU64_eq (show 5 * doy ≤ u64Max by omega),
    addU64_eq (show 5 * doy + 2 ≤ u64Max by omega), Option.bind_eq_bind, Option.bind_some]
  simp only [show (5 * doy + 2) / 153 = mp from rfl, mulU64_eq (show 153 * mp ≤ u64Max by omega),
    addU64_eq (show 153 * mp + 2 ≤ u64Max by omega), subU64_eq passed, Option.bind_some,
    addU64_eq (show doy - (153 * mp + 2) / 5 + 1 ≤ u64Max by omega)]
  by_cases early : mp < 10
  · rw [if_pos early, if_pos early, addU64_eq (by omega)]
    rfl
  · rw [if_neg early, if_neg early, subU64_eq (by omega)]
    rfl

theorem monthAndDay_date (inside : doy < 365 + if isLeap (year + 1) then 1 else 0) :
    ∃ date : Date, monthAndDay doy = some (date.month, date.day) ∧
      date.year = (if date.month ≤ 2 then year + 1 else year) ∧
      date.dayNumber = daysBeforeYear year + daysBeforeMonth year 3 + doy := by
  have short : doy ≤ 365 := by
    split at inside <;> omega
  have read := monthAndDay_eq short
  have bounds : (153 * ((5 * doy + 2) / 153) + 2) / 5 ≤ doy ∧
      doy < (153 * ((5 * doy + 2) / 153 + 1) + 2) / 5 := by omega
  have few : (5 * doy + 2) / 153 ≤ 11 := by omega
  simp only at read
  generalize (5 * doy + 2) / 153 = mp at read bounds few
  have wholeYear : daysBeforeYear (year + 1) = daysBeforeYear year + (daysBeforeMonth year 3 + 306) := by
    rw [daysBeforeYear, Finset.sum_range_succ, daysInYear, daysBeforeMonth_march year 10 le_rfl]
    rfl
  -- From March to December the year stays, in January and February it is the next one.
  by_cases early : mp < 10
  · have length := daysInMonth_march year mp (by omega)
    have start := daysBeforeMonth_march year mp (by omega)
    rw [if_pos early] at read
    refine ⟨⟨year, mp + 3, doy - (153 * mp + 2) / 5 + 1, by omega, by omega⟩, read, ?_, ?_⟩
    · exact (if_neg (show ¬mp + 3 ≤ 2 by omega)).symm
    · rw [Date.dayNumber_mk, start]
      omega
  · rw [if_neg early] at read
    by_cases january : mp = 10
    · subst january
      refine ⟨⟨year + 1, 1, doy - 306 + 1, by omega, by simp only [daysInMonth]; omega⟩, read, rfl, ?_⟩
      rw [Date.dayNumber_mk, wholeYear, daysBeforeMonth_one]
      omega
    · obtain rfl : mp = 11 := by omega
      have length : doy - 337 + 1 ≤ daysInMonth (year + 1) 2 := by
        simp only [daysInMonth]
        split at inside <;> simp_all <;> omega
      refine ⟨⟨year + 1, 2, doy - 337 + 1, by omega, by omega, length⟩, read, rfl, ?_⟩
      have january : daysBeforeMonth (year + 1) 2 = 31 := rfl
      rw [Date.dayNumber_mk, wholeYear, january]
      omega

end March

section Conversion

def epoch : Date := ⟨1970, 1, 1, by decide, by decide⟩

theorem epoch_dayNumber : epoch.dayNumber = 719528 := by
  have counted := daysBeforeYear_eq 1970
  rw [epoch, Date.dayNumber_mk, daysBeforeMonth_one]
  omega

theorem checkI64_natCast {value : Nat} (fits : value < 2 ^ 63) :
    checkI64 (value : Int) = some (value : Int) :=
  checkI64_eq (by omega) (by exact_mod_cast fits)

theorem asU64_natCast {value : Nat} (fits : value < 2 ^ 63) : asU64 (value : Int) = value := by
  rw [asU64]
  omega

theorem civilFromDays_steps {days era doe yoe doy month day : Nat} (small : days < 2 ^ 48)
    (split : days + 719468 = 146097 * era + doe) (inside : doe < 146097)
    (year : yearOfEra doe = some yoe) (early : yoe < 400) (passed : dayOfYear doe yoe = some doy)
    (read : monthAndDay doy = some (month, day)) :
    civilFromDays days =
      some (((if month ≤ 2 then 400 * era + yoe + 1 else 400 * era + yoe : Nat) : Int), month, day) := by
  have z : (days : Int) + 719468 = ((146097 * era + doe : Nat) : Int) := by omega
  have quotient : ((146097 * era + doe : Nat) : Int).tdiv 146097 = (era : Int) := by
    rw [Int.tdiv_eq_ediv_of_nonneg (Int.natCast_nonneg _)]
    omega
  have start : (era : Int) * 146097 = ((146097 * era : Nat) : Int) := by
    push_cast
    ring
  have offset : ((146097 * era + doe : Nat) : Int) - ((146097 * era : Nat) : Int) = (doe : Int) := by
    push_cast
    ring
  have years : (era : Int) * 400 = ((400 * era : Nat) : Int) := by
    push_cast
    ring
  have sum : asI64 yoe + ((400 * era : Nat) : Int) = ((400 * era + yoe : Nat) : Int) := by
    rw [asI64_eq (by omega)]
    push_cast
    ring
  have next : ((400 * era + yoe : Nat) : Int) + 1 = ((400 * era + yoe + 1 : Nat) : Int) := by
    push_cast
    ring
  simp only [civilFromDays, Option.bind_eq_bind, Option.bind_eq_some_iff, Option.pure_def]
  rw [z]
  refine ⟨_, checkI64_natCast (by omega), _, if_pos (Int.natCast_nonneg _), ?_⟩
  rw [quotient, start, years]
  refine ⟨_, checkI64_natCast (by omega), doe, ?_, ?_⟩
  · rw [offset]
    exact checkI64_natCast (by omega)
  rw [asU64_natCast (by omega)]
  refine ⟨yoe, year, _, checkI64_natCast (by omega), (400 * era + yoe : Nat), ?_, doy, passed,
    (month, day), read, ?_⟩
  · rw [sum]
    exact checkI64_natCast (by omega)
  by_cases winter : month ≤ 2
  · refine ⟨(400 * era + yoe + 1 : Nat), ?_, by rw [if_pos winter]⟩
    rw [if_pos winter, next]
    exact checkI64_natCast (by omega)
  · exact ⟨_, if_neg winter, by rw [if_neg winter]⟩

theorem civilFromDays_eq {days : Nat} (small : days < 2 ^ 48) :
    ∃ date : Date, civilFromDays days = some ((date.year : Int), date.month, date.day) ∧
      date.dayNumber = epoch.dayNumber + days := by
  obtain ⟨era, doe, inside, split⟩ : ∃ era doe, doe < 146097 ∧ days + 719468 = 146097 * era + doe :=
    ⟨_, _, Nat.mod_lt _ (by decide), (Nat.div_add_mod _ 146097).symm⟩
  obtain ⟨century, cycle, rest, doy, place⟩ := exists_eraPlace inside
  have found := place.yearOfEra
  have passed := place.dayOfYear
  obtain ⟨placed, centuries, cycles, years, _, leapDay⟩ := place
  have fourths : (400 * era + (100 * century + 4 * cycle + rest)) / 4 =
      100 * era + 25 * century + cycle := by omega
  have hundreds : (400 * era + (100 * century + 4 * cycle + rest)) / 100 = 4 * era + century := by omega
  have eras : (400 * era + (100 * century + 4 * cycle + rest)) / 400 = era := by omega
  have early : 100 * century + 4 * cycle + rest < 400 := by omega
  have leap : doy < 365 +
      if isLeap (400 * era + (100 * century + 4 * cycle + rest) + 1) then 1 else 0 := by
    by_cases last : doy = 365
    · obtain ⟨third, within⟩ := leapDay last
      rw [if_pos ((isLeap_iff _).mpr (by omega)), last]
      decide
    · omega
  obtain ⟨date, read, year, number⟩ := monthAndDay_date leap
  refine ⟨date, ?_, ?_⟩
  · rw [year]
    exact civilFromDays_steps small split inside found early passed read
  · have march := marchFirst_eq (400 * era + (100 * century + 4 * cycle + rest))
    rw [fourths, hundreds, eras] at march
    rw [number, epoch_dayNumber]
    omega

def dateText (date : Date) : String :=
  String.ofList (decimal 4 date.year ++ decimal 2 date.month ++ decimal 2 date.day)

theorem daysInMonth_le (year month : Nat) : daysInMonth year month ≤ 31 := by
  unfold daysInMonth
  split
  · split <;> decide
  all_goals decide

theorem dateText_injective : Function.Injective dateText := by
  intro left right same
  have twoPlaces : ∀ date : Date, (decimal 2 date.month).length = 2 ∧ (decimal 2 date.day).length = 2 := by
    intro date
    have month := date.validMonth
    have day := date.validDay
    have short := daysInMonth_le date.year date.month
    exact ⟨length_decimal (by omega), length_decimal (by omega)⟩
  have chars := String.ofList_injective same
  obtain ⟨front, day⟩ := List.append_inj' chars ((twoPlaces left).2.trans (twoPlaces right).2.symm)
  obtain ⟨year, month⟩ := List.append_inj' front ((twoPlaces left).1.trans (twoPlaces right).1.symm)
  exact Date.ext (decimal_injective 4 year) (decimal_injective 2 month) (decimal_injective 2 day)

theorem ymd_eq {unixSecs : Nat} (fits : unixSecs ≤ u64Max) :
    ∃ date : Date, ymd unixSecs = some (dateText date) ∧
      date.dayNumber = epoch.dayNumber + unixSecs / 86400 := by
  have small : unixSecs / 86400 < 2 ^ 48 := by
    rw [u64Max] at fits
    omega
  obtain ⟨date, read, number⟩ := civilFromDays_eq small
  refine ⟨date, ?_, number⟩
  rw [ymd, asI64_eq (by omega), read]
  have positive : ¬(date.year : Int) < 0 := by omega
  simp only [Option.bind_eq_bind, Option.bind_some, Option.pure_def, signedDecimal, if_neg positive,
    Int.natAbs_natCast, dateText]

/-- The printed date is the date of the day: it is the only date with the number of that day, and
the text changes when the day does. -/
theorem ymd_gregorian (unixSecs : Nat) (fits : unixSecs ≤ u64Max) :
    ∃ date : Date, ymd unixSecs = some (dateText date) ∧
      (∀ other : Date, other.dayNumber = epoch.dayNumber + unixSecs / 86400 ↔ other = date) ∧
      ∀ moment ≤ u64Max, ymd moment = ymd unixSecs ↔ moment / 86400 = unixSecs / 86400 := by
  obtain ⟨date, printed, number⟩ := ymd_eq fits
  refine ⟨date, printed, ?_, ?_⟩
  · intro other
    constructor
    · intro same
      exact Date.dayNumber_injective (same.trans number.symm)
    · rintro rfl
      exact number
  · intro moment momentFits
    obtain ⟨otherDate, otherPrinted, otherNumber⟩ := ymd_eq momentFits
    rw [printed, otherPrinted, Option.some_inj, dateText_injective.eq_iff]
    constructor
    · rintro rfl
      omega
    · intro sameDay
      exact Date.dayNumber_injective (by rw [number, otherNumber, sameDay])

theorem ymd_gregorian_last : ∃ date : Date, ymd u64Max = some (dateText date) ∧
    date.dayNumber = 719528 + u64Max / 86400 := by
  obtain ⟨date, printed, unique, _⟩ := ymd_gregorian u64Max le_rfl
  refine ⟨date, printed, ?_⟩
  rw [← epoch_dayNumber]
  exact (unique date).mpr rfl

example : ymd 1777248000 = some "20260427" := by decide +kernel

end Conversion

end ViperChain.Audit
