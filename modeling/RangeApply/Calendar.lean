import Mathlib.Order.Monotone.Basic
import Mathlib.Tactic.IntervalCases
import RangeApply.Parted

/-! The Gregorian calendar by day numbers, before year 1 and after it: 1 is January 1st of year 1,
a Monday. -/
namespace Calendar

def leap (y : Int) : Bool := y % 4 == 0 && (y % 100 != 0 || y % 400 == 0)

/-- The days of the years before a year, from year 1 on. -/
def daysBeforeYear (y : Int) : Int := (y - 1) * 365 + (y - 1) / 4 - (y - 1) / 100 + (y - 1) / 400

/-- The days of a year before its month `m`, in a year that is not a leap year. -/
def daysBefore : Nat → Nat
  | 0 | 1 => 0
  | 2 => 31
  | 3 => 59
  | 4 => 90
  | 5 => 120
  | 6 => 151
  | 7 => 181
  | 8 => 212
  | 9 => 243
  | 10 => 273
  | 11 => 304
  | 12 => 334
  | _ => 365

def daysBeforeMonth (long : Bool) (m : Nat) : Nat := daysBefore m + if 2 < m ∧ long then 1 else 0

def daysInMonth (long : Bool) (m : Nat) : Nat := daysBeforeMonth long (m + 1) - daysBeforeMonth long m

structure Date where
  year : Int
  month : Nat
  day : Nat
  deriving DecidableEq

def Date.ordinal (d : Date) : Int :=
  daysBeforeYear d.year + daysBeforeMonth (leap d.year) d.month + d.day

/-! ### Days of the years 1 to 9999 -/

/-- The day before the first one of year 10000. -/
def maxOrdinal : Int := 3652059

structure Day where
  ordinal : Int
  low : 1 ≤ ordinal
  high : ordinal ≤ maxOrdinal
  deriving DecidableEq

structure Date.Valid (d : Date) : Prop where
  year : 1 ≤ d.year ∧ d.year ≤ 9999
  month : 1 ≤ d.month ∧ d.month ≤ 12
  day : 1 ≤ d.day ∧ d.day ≤ daysInMonth (leap d.year) d.month

instance (d : Date) : Decidable d.Valid :=
  decidable_of_iff ((1 ≤ d.year ∧ d.year ≤ 9999) ∧ (1 ≤ d.month ∧ d.month ≤ 12) ∧
      1 ≤ d.day ∧ d.day ≤ daysInMonth (leap d.year) d.month)
    ⟨fun ⟨year, month, day⟩ => ⟨year, month, day⟩, fun ⟨year, month, day⟩ => ⟨year, month, day⟩⟩

theorem leap_iff (y : Int) : leap y = true ↔ y % 4 = 0 ∧ (y % 100 ≠ 0 ∨ y % 400 = 0) := by
  simp [leap]

def yearLength (y : Int) : Int := if leap y then 366 else 365

theorem daysBeforeYear_succ (y : Int) :
    daysBeforeYear (y + 1) = daysBeforeYear y + yearLength y := by
  have year := leap_iff y
  unfold daysBeforeYear yearLength
  by_cases long : leap y = true
  · obtain ⟨fourth, century⟩ := year.mp long
    rw [if_pos long]
    omega
  · have short := mt year.mpr long
    rw [if_neg long]
    omega

theorem daysBeforeYear_mono {y y' : Int} (before : y ≤ y') :
    daysBeforeYear y ≤ daysBeforeYear y' := by
  refine monotone_int_of_le_succ (fun y => ?_) before
  rw [daysBeforeYear_succ, yearLength]
  split <;> omega

theorem daysBeforeMonth_le {long : Bool} {m d : Nat} (month : 1 ≤ m ∧ m ≤ 12)
    (day : d ≤ daysInMonth long m) :
    ((daysBeforeMonth long m + d : Nat) : Int) ≤ if long then 366 else 365 := by
  obtain ⟨low, high⟩ := month
  unfold daysInMonth daysBeforeMonth at day
  unfold daysBeforeMonth
  cases long <;> interval_cases m <;> simp [daysBefore] at day ⊢ <;> omega

theorem Date.Valid.ordinal_le {d : Date} (valid : d.Valid) :
    1 ≤ d.ordinal ∧ d.ordinal ≤ maxOrdinal := by
  have within := daysBeforeMonth_le valid.month valid.day.2
  have first : daysBeforeYear 1 ≤ daysBeforeYear d.year := daysBeforeYear_mono valid.year.1
  have last : daysBeforeYear (d.year + 1) ≤ daysBeforeYear 10000 :=
    daysBeforeYear_mono (by have := valid.year.2; omega)
  have year := daysBeforeYear_succ d.year
  have bounds : daysBeforeYear 1 = 0 ∧ daysBeforeYear 10000 = maxOrdinal := by decide
  have positive := valid.day.1
  unfold yearLength at year
  unfold Date.ordinal
  omega

/-- The day of a civil date, when there is one. -/
def Day.ofCivil (y m d : Nat) : Option Day :=
  if valid : Date.Valid ⟨y, m, d⟩ then some ⟨Date.ordinal ⟨y, m, d⟩, valid.ordinal_le.1, valid.ordinal_le.2⟩
  else none

def Day.ofOrdinal (n : Int) : Option Day :=
  if range : 1 ≤ n ∧ n ≤ maxOrdinal then some ⟨n, range.1, range.2⟩ else none

/-! ### Dates of days -/

/-- The month and the day of a day of a year, counted from 0: an estimate, and a correction. -/
def monthAndDay (long : Bool) (n : Nat) : Nat × Nat :=
  let month := (n + 50) / 32
  if n < daysBeforeMonth long month then (month - 1, n - daysBeforeMonth long (month - 1) + 1)
  else (month, n - daysBeforeMonth long month + 1)

/-- `_ord2ymd`. -/
def Date.ofOrdinal (ordinal : Int) : Date :=
  let n := ordinal - 1
  let n400 := n / 146097
  let n := n % 146097
  let n100 := n / 36524
  let n := n % 36524
  let n4 := n / 1461
  let n := n % 1461
  let n1 := n / 365
  let n := n % 365
  let year := n400 * 400 + 1 + n100 * 100 + n4 * 4 + n1
  if n1 = 4 ∨ n100 = 4 then ⟨year - 1, 12, 31⟩
  else
    let month := monthAndDay (n1 = 3 ∧ (n4 ≠ 24 ∨ n100 = 3)) n.toNat
    ⟨year, month.1, month.2⟩

theorem monthAndDay_correct (long : Bool) (n : Nat) (within : n < 365) :
    daysBeforeMonth long (monthAndDay long n).1 + (monthAndDay long n).2 = n + 1 := by
  have all : ∀ n < 365, ∀ long, daysBeforeMonth long (monthAndDay long n).1 +
      (monthAndDay long n).2 = n + 1 := by decide +kernel
  exact all n within long

section Parts
variable {a b c e : Int}

theorem daysBeforeYear_parts (centuries : 0 ≤ b ∧ b ≤ 3) (fours : 0 ≤ c ∧ c ≤ 24)
    (ones : 0 ≤ e ∧ e ≤ 3) : daysBeforeYear (a * 400 + 1 + b * 100 + c * 4 + e) =
      146097 * a + 36524 * b + 1461 * c + 365 * e := by
  unfold daysBeforeYear
  omega

theorem leap_parts (centuries : 0 ≤ b ∧ b ≤ 3) (fours : 0 ≤ c ∧ c ≤ 24) (ones : 0 ≤ e ∧ e ≤ 3) :
    leap (a * 400 + 1 + b * 100 + c * 4 + e) = decide (e = 3 ∧ (c ≠ 24 ∨ b = 3)) := by
  rw [Bool.eq_iff_iff, leap_iff, decide_eq_true_eq]
  omega

/-- The year of the last day of four years that begin no century, or of four centuries. -/
theorem lastYear_parts (last : (e = 4 ∧ 0 ≤ c ∧ c ≤ 23 ∧ 0 ≤ b ∧ b ≤ 3) ∨ (b = 4 ∧ c = 0 ∧ e = 0)) :
    leap (a * 400 + 1 + b * 100 + c * 4 + e - 1) = true := by
  rw [leap_iff]
  omega

theorem lastDay_parts (last : (e = 4 ∧ 0 ≤ c ∧ c ≤ 23 ∧ 0 ≤ b ∧ b ≤ 3) ∨ (b = 4 ∧ c = 0 ∧ e = 0)) :
    (Date.mk (a * 400 + 1 + b * 100 + c * 4 + e - 1) 12 31).ordinal =
      146097 * a + 36524 * b + 1461 * c + 365 * e + 1 := by
  unfold Date.ordinal
  dsimp only
  rw [lastYear_parts last, show daysBeforeMonth true 12 = 335 from rfl]
  unfold daysBeforeYear
  omega

end Parts

/-- The date of a day is that of the day with its number, and the day lies in its year. -/
theorem ofOrdinal_spec (n : Int) : (Date.ofOrdinal n).ordinal = n ∧
    daysBeforeYear (Date.ofOrdinal n).year < n ∧
      n ≤ daysBeforeYear ((Date.ofOrdinal n).year + 1) := by
  have cycle := Int.emod_add_mul_ediv (n - 1) 146097
  have century := Int.emod_add_mul_ediv ((n - 1) % 146097) 36524
  have four := Int.emod_add_mul_ediv ((n - 1) % 146097 % 36524) 1461
  have one := Int.emod_add_mul_ediv ((n - 1) % 146097 % 36524 % 1461) 365
  unfold Date.ofOrdinal
  dsimp only
  generalize (n - 1) / 146097 = a at *
  have := Int.emod_nonneg (n - 1) (b := 146097) (by decide)
  have := Int.emod_lt_of_pos (n - 1) (b := 146097) (by decide)
  generalize (n - 1) % 146097 = r at *
  have := Int.emod_nonneg r (b := 36524) (by decide)
  have := Int.emod_lt_of_pos r (b := 36524) (by decide)
  generalize r / 36524 = b at *
  generalize r % 36524 = r' at *
  have := Int.emod_nonneg r' (b := 1461) (by decide)
  have := Int.emod_lt_of_pos r' (b := 1461) (by decide)
  generalize r' / 1461 = c at *
  generalize r' % 1461 = r'' at *
  have := Int.emod_nonneg r'' (b := 365) (by decide)
  have := Int.emod_lt_of_pos r'' (b := 365) (by decide)
  generalize r'' / 365 = e at *
  generalize r'' % 365 = d at *
  split
  · have number := lastDay_parts (a := a) (b := b) (c := c) (e := e) (by omega)
    have length : yearLength (a * 400 + 1 + b * 100 + c * 4 + e - 1) = 366 :=
      if_pos (lastYear_parts (by omega))
    have next := daysBeforeYear_succ (a * 400 + 1 + b * 100 + c * 4 + e - 1)
    rw [length] at next
    have inside : (Date.mk (a * 400 + 1 + b * 100 + c * 4 + e - 1) 12 31).ordinal =
        daysBeforeYear (a * 400 + 1 + b * 100 + c * 4 + e - 1) + 366 := by
      unfold Date.ordinal
      dsimp only
      rw [lastYear_parts (by omega), show daysBeforeMonth true 12 = 335 from rfl]
      omega
    dsimp only
    omega
  · have centuries : 0 ≤ b ∧ b ≤ 3 := by omega
    have fours : 0 ≤ c ∧ c ≤ 24 := by omega
    have ones : 0 ≤ e ∧ e ≤ 3 := by omega
    have days := monthAndDay_correct (decide (e = 3 ∧ (c ≠ 24 ∨ b = 3))) d.toNat (by omega)
    have before := daysBeforeYear_parts (a := a) centuries fours ones
    have next := daysBeforeYear_succ (a * 400 + 1 + b * 100 + c * 4 + e)
    have length : 365 ≤ yearLength (a * 400 + 1 + b * 100 + c * 4 + e) := by
      unfold yearLength
      split <;> decide
    unfold Date.ordinal
    dsimp only
    rw [before, leap_parts centuries fours ones]
    omega

theorem ofOrdinal_injective {n n' : Int} (same : Date.ofOrdinal n = Date.ofOrdinal n') : n = n' := by
  rw [← (ofOrdinal_spec n).1, same, (ofOrdinal_spec n').1]

/-! ### Weeks -/

/-- Monday is 0. -/
def weekday (ordinal : Int) : Int := (ordinal + 6) % 7

/-- The Monday of the first week of a year: the week that has its first Thursday. -/
def week1Monday (y : Int) : Int :=
  let first := daysBeforeYear y + 1
  let monday := first - weekday first
  if 3 < weekday first then monday + 7 else monday

/-- `isocalendar`: the ISO year, the week and the weekday, counted from 1. -/
structure WeekDate where
  year : Int
  week : Int
  weekday : Int
  deriving DecidableEq

def isocalendar (ordinal : Int) : WeekDate :=
  let year := (Date.ofOrdinal ordinal).year
  let week := (ordinal - week1Monday year) / 7
  let day := (ordinal - week1Monday year) % 7
  if week < 0 then
    ⟨year - 1, (ordinal - week1Monday (year - 1)) / 7 + 1,
      (ordinal - week1Monday (year - 1)) % 7 + 1⟩
  else if 52 ≤ week ∧ week1Monday (year + 1) ≤ ordinal then ⟨year + 1, 1, day + 1⟩
  else ⟨year, week + 1, day + 1⟩

theorem week1Monday_spec (y : Int) : week1Monday y % 7 = 1 ∧
    daysBeforeYear y - 2 ≤ week1Monday y ∧ week1Monday y ≤ daysBeforeYear y + 4 := by
  unfold week1Monday weekday
  dsimp only
  split <;> omega

/-- A day is as many days after the first Monday of its ISO year as its week and weekday say. -/
theorem isocalendar_spec (n : Int) :
    n = week1Monday (isocalendar n).year + 7 * ((isocalendar n).week - 1) +
        ((isocalendar n).weekday - 1) ∧
      1 ≤ (isocalendar n).week ∧ 1 ≤ (isocalendar n).weekday ∧ (isocalendar n).weekday ≤ 7 := by
  obtain ⟨-, after, until_⟩ := ofOrdinal_spec n
  unfold isocalendar
  dsimp only
  generalize (Date.ofOrdinal n).year = y at *
  have here := week1Monday_spec y
  have last := week1Monday_spec (y - 1)
  have next := week1Monday_spec (y + 1)
  have length := daysBeforeYear_succ (y - 1)
  rw [Int.sub_add_cancel] at length
  have long : 365 ≤ yearLength (y - 1) := by
    unfold yearLength
    split <;> decide
  split
  · dsimp only
    omega
  split
  · dsimp only
    omega
  · dsimp only
    omega

/-- A year that begins with a Thursday, or a leap year that begins with a Wednesday. -/
def has53Weeks (y : Int) : Bool :=
  weekday (daysBeforeYear y + 1) == 3 || (weekday (daysBeforeYear y + 1) == 2 && leap y)

/-- The day of an ISO week date, when it is in the years 1 to 9999. -/
def Day.ofIsoWeek (y week day : Nat) : Option Day :=
  if 1 ≤ y ∧ 1 ≤ week ∧ (week ≤ 52 ∨ (week = 53 ∧ has53Weeks y)) ∧ 1 ≤ day ∧ day ≤ 7 then
    Day.ofOrdinal (week1Monday y + ((week : Int) - 1) * 7 + (day - 1))
  else none

/-! ### Texts -/

/-- A number with zeros before it, up to a width. -/
def pad (width n : Nat) : List Char :=
  List.replicate (width - (Nat.toDigits 10 n).length) '0' ++ Nat.toDigits 10 n

def padInt (width : Nat) (n : Int) : List Char :=
  if n < 0 then '-' :: pad (width - 1) n.natAbs else pad width n.natAbs

/-- `date.isoformat()`. -/
def Date.isoformat (d : Date) : String :=
  .ofList (padInt 4 d.year ++ '-' :: (pad 2 d.month ++ '-' :: pad 2 d.day))

/-- `f"{year}-W{week:02d}"`. -/
def WeekDate.text (w : WeekDate) : String :=
  .ofList (padInt 1 w.year ++ '-' :: 'W' :: padInt 2 w.week)

theorem ofDigitChars_pad (width n : Nat) : Nat.ofDigitChars 10 (pad width n) 0 = n := by
  rw [pad, Nat.ofDigitChars_append, Nat.ofDigitChars_replicate_zero, Nat.mul_zero,
    Nat.ofDigitChars_ten_toDigits]

theorem pad_injective {width n m : Nat} (same : pad width n = pad width m) : n = m := by
  rw [← ofDigitChars_pad width n, same, ofDigitChars_pad]

theorem dash_not_mem_pad (width n : Nat) : '-' ∉ pad width n := by
  intro member
  rcases List.mem_append.mp member with zero | digit
  · exact absurd (List.eq_of_mem_replicate zero) (by decide)
  · exact absurd (Nat.isDigit_of_mem_toDigits (by decide) (by decide) digit) (by decide)

theorem padInt_injective {width : Nat} {n m : Int} (same : padInt width n = padInt width m) :
    n = m := by
  have unsigned {width k k' : Nat} (mixed : '-' :: pad width k = pad (width + 1) k') : False :=
    dash_not_mem_pad _ _ (mixed ▸ List.mem_cons_self)
  have unsigned' {width width' k k' : Nat} (mixed : '-' :: pad width k = pad width' k') : False :=
    dash_not_mem_pad _ _ (mixed ▸ List.mem_cons_self)
  unfold padInt at same
  split at same
  · split at same
    · have magnitude := pad_injective (List.cons.inj same).2
      omega
    · exact (unsigned' same).elim
  · split at same
    · exact (unsigned' same.symm).elim
    · have magnitude := pad_injective same
      omega

/-- A text parts in one way only before the last dash. -/
theorem parts_at_last {a b x y : List Char} (same : a ++ '-' :: x = b ++ '-' :: y)
    (clear : '-' ∉ x) (clear' : '-' ∉ y) : a = b ∧ x = y := by
  rcases Parted.split_cases same with parts | ⟨v, -, rfl⟩ | ⟨v, -, rfl⟩
  · exact parts
  · exact absurd (List.mem_append_right _ List.mem_cons_self) clear'
  · exact absurd (List.mem_append_right _ List.mem_cons_self) clear

theorem isoformat_injective {d d' : Date} (same : d.isoformat = d'.isoformat) : d = d' := by
  unfold Date.isoformat at same
  have chars := String.ofList_injective same
  rw [← List.cons_append, ← List.append_assoc, ← List.cons_append, ← List.append_assoc] at chars
  obtain ⟨rest, day⟩ := parts_at_last chars (dash_not_mem_pad _ _) (dash_not_mem_pad _ _)
  obtain ⟨year, month⟩ := parts_at_last rest (dash_not_mem_pad _ _) (dash_not_mem_pad _ _)
  cases d
  cases d'
  congr
  · exact padInt_injective year
  · exact pad_injective month
  · exact pad_injective day

/-- Week dates with one text are of one week. -/
theorem weekText_injective {w w' : WeekDate} (positive : 1 ≤ w.week) (positive' : 1 ≤ w'.week)
    (same : w.text = w'.text) : w.year = w'.year ∧ w.week = w'.week := by
  have clear {w : WeekDate} (positive : 1 ≤ w.week) : '-' ∉ 'W' :: padInt 2 w.week := by
    rw [padInt, if_neg (by omega)]
    simpa using dash_not_mem_pad _ _
  unfold WeekDate.text at same
  obtain ⟨year, week⟩ :=
    parts_at_last (String.ofList_injective same) (clear positive) (clear positive')
  exact ⟨padInt_injective year, padInt_injective (List.cons.inj week).2⟩

end Calendar
