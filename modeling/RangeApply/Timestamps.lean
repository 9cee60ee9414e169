import RangeApply.Calendar
import RangeApply.Message

/-! Timestamps of sources: epoch numbers and ISO 8601 texts, read into UTC. Which of the exceptions
on the way is handled depends on the step it comes from. -/
namespace RangeApply.TimeUtils

open Calendar

/-! ### Datetimes -/

inductive PyError
  | value | overflow | os | type
  deriving DecidableEq

def microsPerDay : Int := 86400000000

/-- The microseconds of the years 1 to 9999. -/
def maxMicros : Int := maxOrdinal * microsPerDay

/-- A datetime: local microseconds from the beginning of year 1, and the offset to UTC in
microseconds, if there is one. -/
structure Stamp where
  micros : Int
  offset : Option Int
  inYears : 0 ≤ micros ∧ micros < maxMicros
  withinDay : ∀ o ∈ offset, -microsPerDay < o ∧ o < microsPerDay
  deriving DecidableEq

namespace Stamp

def IsUtc (s : Stamp) : Prop := s.offset = some 0

/-- `ensure_aware`: `replace(tzinfo=UTC)`, or `astimezone(UTC)`, which raises when the years end. -/
def ensureAware (s : Stamp) : Except PyError Stamp :=
  match s.offset with
  | none => .ok ⟨s.micros, some 0, s.inYears, by simp [microsPerDay]⟩
  | some offset =>
    if range : 0 ≤ s.micros - offset ∧ s.micros - offset < maxMicros then
      .ok ⟨s.micros - offset, some 0, range, by simp [microsPerDay]⟩
    else .error .overflow

/-- The moment lies outside of the years that UTC datetimes have. -/
def Beyond (s : Stamp) : Prop :=
  ∃ offset, s.offset = some offset ∧ ¬(0 ≤ s.micros - offset ∧ s.micros - offset < maxMicros)

end Stamp

/-! ### ISO 8601 -/

def digit (c : Char) : Option Nat := if c.isDigit then some (c.toNat - 48) else none

/-- A number of exactly `n` digits, after the digits read before it. -/
def readDigits : Nat → Nat → Text → Option (Nat × Text)
  | 0, acc, rest => some (acc, rest)
  | _ + 1, _, [] => none
  | n + 1, acc, c :: rest => do readDigits n (acc * 10 + (← digit c)) rest

/-- `_find_isoformat_datetime_separator`: where the date ends. -/
def separatorAt (t : Text) : Option Nat :=
  if t.length = 7 then some 7
  else if t[4]? = some '-' then
    if t[5]? = some 'W' then
      if t[8]? = some '-' then
        if t.length = 9 then none
        else if t[10]?.any Char.isDigit then some 8
        else some 10
      else some 8
    else some 10
  else if t[4]? = some 'W' then
    let run := 7 + ((t.drop 7).takeWhile Char.isDigit).length
    if run < 9 then some run else if run % 2 = 0 then some 7 else some 8
  else some 8

/-- The dash between two parts of a date: in all places or in none. -/
def dash (dashes : Bool) (t : Text) : Option Text :=
  match dashes, t with
  | true, '-' :: rest => some rest
  | true, _ => none
  | false, rest => some rest

/-- `_parse_isoformat_date`. -/
def parseDate (t : Text) : Option Day := do
  let (year, rest) ← readDigits 4 0 t
  let dashes := rest.head? = some '-'
  match ← dash dashes rest with
  | 'W' :: rest =>
    let (week, rest) ← readDigits 2 0 rest
    if rest = [] then Day.ofIsoWeek year week 1
    else
      let (day, rest) ← readDigits 1 0 (← dash dashes rest)
      if rest = [] then Day.ofIsoWeek year week day else none
  | rest =>
    let (month, rest) ← readDigits 2 0 rest
    let (day, rest) ← readDigits 2 0 (← dash dashes rest)
    if rest = [] then Day.ofCivil year month day else none

structure Clock where
  hour : Nat
  minute : Nat
  second : Nat
  micro : Nat

namespace Clock

def seconds (c : Clock) : Int := (c.hour * 60 + c.minute) * 60 + c.second

def micros (c : Clock) : Int := c.seconds * 1000000 + c.micro

def Valid (c : Clock) : Prop := c.hour < 24 ∧ c.minute < 60 ∧ c.second < 60 ∧ c.micro < 1000000

instance (c : Clock) : Decidable c.Valid := inferInstanceAs (Decidable (_ ∧ _ ∧ _ ∧ _))

theorem Valid.micros {c : Clock} (valid : c.Valid) : 0 ≤ c.micros ∧ c.micros < microsPerDay := by
  obtain ⟨hour, minute, second, micro⟩ := valid
  unfold Clock.micros seconds microsPerDay
  omega

end Clock

/-- Where the parser takes the text to be over: at its end, or at a NUL. -/
def ended (t : Text) : Bool := t.head?.all fun c => c.toNat == 0

/-- What follows two digits of a time. -/
inductive After
  | done (whole : Bool)
  | part (rest : Text)
  | fraction (rest : Text)

/-- One character may be left over; whether that is an error depends on what the time is part of. -/
def after (colons : Bool) : Text → Option After
  | [] => some (.done true)
  | c :: rest =>
    if rest = [] ∧ c.toNat < 128 then some (.done (ended [c]))
    else if colons ∧ c = ':' then some (.part rest)
    else if c = '.' ∨ c = ',' then some (.fraction rest)
    else if colons then none
    else some (.part (c :: rest))

/-- The microseconds of a fraction, of which the first six digits count. -/
def fraction (c : Clock) (t : Text) : Option (Clock × Bool) := do
  let n := min 6 t.length
  let (value, rest) ← readDigits n 0 t
  return ({ c with micro := value * 10 ^ (6 - n) }, ended (rest.dropWhile Char.isDigit))

/-- `_parse_hh_mm_ss_ff`, as the C parser has it: a fraction may come after any of the parts, and a
colon may lead it in. With the time, whether the text ends with it. -/
def parseClock (t : Text) : Option (Clock × Bool) := do
  let (hour, rest) ← readDigits 2 0 t
  let colons := rest.head? = some ':'
  match ← after colons rest with
  | .done whole => return (⟨hour, 0, 0, 0⟩, whole)
  | .fraction rest => fraction ⟨hour, 0, 0, 0⟩ rest
  | .part rest =>
    let (minute, rest) ← readDigits 2 0 rest
    match ← after colons rest with
    | .done whole => return (⟨hour, minute, 0, 0⟩, whole)
    | .fraction rest => fraction ⟨hour, minute, 0, 0⟩ rest
    | .part rest =>
      let (second, rest) ← readDigits 2 0 rest
      match ← after colons rest with
      | .done whole => return (⟨hour, minute, second, 0⟩, whole)
      | .fraction rest | .part rest => fraction ⟨hour, minute, second, 0⟩ rest

def inClock (c : Char) : Bool := c ≠ '+' ∧ c ≠ '-' ∧ c ≠ 'Z'

/-- `_parse_isoformat_time`: the time, and the offset in microseconds. A text may go on after the
time only with an offset; an offset of no seconds is zero. -/
def parseTime (t : Text) : Option (Clock × Option Int) := do
  let (clock, whole) ← parseClock (t.takeWhile inClock)
  match t.dropWhile inClock with
  | [] => if whole then return (clock, none) else none
  | sign :: rest =>
    if sign = 'Z' then
      if ended rest then return (clock, some 0) else none
    else
      let (offset, whole) ← parseClock rest
      let micros := if offset.seconds = 0 then 0 else offset.micros
      if whole then return (clock, some (if sign = '-' then -micros else micros)) else none

theorem inYears_of_day (day : Day) {clock : Clock} (valid : clock.Valid) :
    0 ≤ (day.ordinal - 1) * microsPerDay + clock.micros ∧
      (day.ordinal - 1) * microsPerDay + clock.micros < maxMicros := by
  have low := day.low
  have high := day.high
  have time := valid.micros
  unfold maxMicros microsPerDay at *
  omega

/-- The datetime of a day, a time and an offset, when its parts are in their ranges. -/
def Stamp.combine (day : Day) (clock : Clock) (offset : Option Int) : Option Stamp :=
  if valid : clock.Valid ∧ ∀ o ∈ offset, -microsPerDay < o ∧ o < microsPerDay then
    some ⟨(day.ordinal - 1) * microsPerDay + clock.micros, offset, inYears_of_day day valid.1,
      valid.2⟩
  else none

/-- `datetime.fromisoformat`; no datetime where it raises ValueError. -/
def fromisoformat (t : Text) : Option Stamp :=
  if t.length < 7 then none
  else do
    let separator ← separatorAt t
    let day ← parseDate (t.take separator)
    match t.drop separator with
    | [] => Stamp.combine day ⟨0, 0, 0, 0⟩ none
    | _ :: time => do
      let (clock, offset) ← parseTime time
      Stamp.combine day clock offset

/-! ### Numbers -/

/-- A double: a rational number, or one of those that are none. -/
inductive Float64
  | finite (q : Rat)
  | inf
  | negInf
  | nan

/-- From here on an integer rounds to no double. -/
@[irreducible]
def floatBound : Nat := 2 ^ 1024 - 2 ^ 970

def roundHalfEven (q : Rat) : Int :=
  let rest := q - q.floor
  if rest < 1 / 2 ∨ (rest = 1 / 2 ∧ q.floor % 2 = 0) then q.floor else q.floor + 1

/-- 1970-01-01, in microseconds. -/
def epochMicros : Int := (Date.ordinal ⟨1970, 1, 1⟩ - 1) * microsPerDay

/-- `datetime.fromtimestamp(number, tz=UTC)`. -/
def fromtimestamp : Float64 → Except PyError Stamp
  | .finite q =>
    let micros := epochMicros + roundHalfEven (q * 1000000)
    if range : 0 ≤ micros ∧ micros < maxMicros then
      .ok ⟨micros, some 0, range, by simp [microsPerDay]⟩
    else .error .value
  | .nan => .error .value
  | _ => .error .overflow

/-- `try: … except errors: return None`; without errors, no `try` at all. -/
def handling {α : Type} (errors : List PyError) : Except PyError α → Except PyError (Option α)
  | .ok a => .ok (some a)
  | .error e => if e ∈ errors then .ok none else .error e

/-- What the character database says of digits: what `str.isdigit` accepts beyond the decimal ones,
and the values of the decimal ones. -/
structure Digits where
  isDigit : Char → Bool
  decimal : Char → Option Nat

inductive Value
  | none
  | bool (b : Bool)
  | int (n : Int)
  | float (x : Float64)
  | str (t : Text)
  | datetime (s : Stamp)
  | other

section Parse
variable (digits : Digits) (rounded : Rat → Rat)

/-- `float(n)`, rounded to a double. -/
def toFloat (n : Int) : Except PyError Float64 :=
  if floatBound ≤ n.natAbs then .error .overflow else .ok (.finite (rounded n))

/-- `int` reads the text: its digits are decimal ones, and not too many. -/
def Readable (raw : Text) : Prop :=
  raw.all (fun c => (digits.decimal c).isSome) = true ∧ raw.length ≤ 4300

instance (raw : Text) : Decidable (Readable digits raw) := inferInstanceAs (Decidable (_ ∧ _))

def number (raw : Text) : Nat := (raw.filterMap digits.decimal).foldl (fun n v => n * 10 + v) 0

/-- `int(raw)` of a text of digits. -/
def toInt (raw : Text) : Except PyError Int :=
  if Readable digits raw then .ok (number digits raw) else .error .value

/-- `_from_epoch`, after `float(value)`: seconds, or milliseconds past 10^11. -/
def fromNumber : Float64 → Except PyError (Option Stamp)
  | .finite q =>
    if q ≤ 0 then .ok Option.none
    else handling [.overflow, .os, .value]
      (fromtimestamp (.finite (if 100000000000 < q then rounded (q / 1000) else q)))
  | .negInf => .ok Option.none
  | x => handling [.overflow, .os, .value] (fromtimestamp x)

def fromEpoch (value : Except PyError Float64) : Except PyError (Option Stamp) := do
  match ← handling [.type, .value] value with
  | Option.none => return Option.none
  | some number => fromNumber rounded number

/-- `raw.replace("Z", "+00:00") if raw.endswith("Z") else raw`. -/
def isoText (raw : Text) : Text :=
  if raw.getLast? = some 'Z' then raw.flatMap fun c => if c = 'Z' then "+00:00".ascii else [c]
  else raw

def parseText (t : Text) : Except PyError (Option Stamp) := do
  let raw := Text.strip t
  if raw = [] then return Option.none
  if raw.all digits.isDigit then fromEpoch rounded (toFloat rounded (← toInt digits raw))
  else
    match fromisoformat (isoText raw) with
    | Option.none => return Option.none
    | some stamp => handling [.value] stamp.ensureAware

def parseTimestamp : Value → Except PyError (Option Stamp)
  | .none => return Option.none
  | .datetime s => handling [] s.ensureAware
  | .bool _ => return Option.none
  | .int n => fromEpoch rounded (toFloat rounded n)
  | .float x => fromEpoch rounded (.ok x)
  | .str t => if t = [] then return Option.none else parseText digits rounded t
  | .other => return Option.none

end Parse

/-! ### What escapes -/

/-- A datetime in UTC, or none. -/
def Returns (x : Except PyError (Option Stamp)) : Prop := ∃ r, x = .ok r ∧ ∀ s ∈ r, s.IsUtc

theorem Returns.nothing : Returns (.ok none) := ⟨none, rfl, by simp⟩

theorem not_returns_error (e : PyError) : ¬Returns (.error e) := by
  rintro ⟨r, ran, -⟩
  cases ran

theorem Stamp.ensureAware_ok {s s' : Stamp} (ran : s.ensureAware = .ok s') : s'.IsUtc := by
  unfold Stamp.ensureAware at ran
  split at ran
  · cases ran
    rfl
  · split at ran
    · cases ran
      rfl
    · cases ran

theorem Stamp.ensureAware_error {s : Stamp} {e : PyError} :
    s.ensureAware = .error e ↔ e = .overflow ∧ s.Beyond := by
  unfold Stamp.ensureAware Stamp.Beyond
  cases s.offset with
  | none => simp
  | some offset =>
    dsimp only
    split
    · rename_i range
      constructor
      · rintro ⟨⟩
      · rintro ⟨rfl, offset', same, beyond⟩
        cases same
        exact absurd range beyond
    · rename_i range
      constructor
      · rintro ⟨⟩
        exact ⟨rfl, offset, rfl, range⟩
      · rintro ⟨rfl, -⟩
        rfl

/-- An overflow of `astimezone` is among no errors that are handled after it. -/
theorem returns_ensureAware {errors : List PyError} (open_ : .overflow ∉ errors) (s : Stamp) :
    Returns (handling errors s.ensureAware) ↔ ¬s.Beyond := by
  cases ran : s.ensureAware with
  | ok s' =>
    refine iff_of_true ⟨some s', rfl, ?_⟩ fun beyond => ?_
    · rintro _ ⟨⟩
      exact Stamp.ensureAware_ok ran
    · have raises := Stamp.ensureAware_error.mpr ⟨rfl, beyond⟩
      rw [ran] at raises
      cases raises
  | error e =>
    obtain ⟨rfl, beyond⟩ := Stamp.ensureAware_error.mp ran
    rw [handling, if_neg open_]
    exact iff_of_false (not_returns_error _) (not_not.mpr beyond)

theorem fromtimestamp_ok {x : Float64} {s : Stamp} (ran : fromtimestamp x = .ok s) : s.IsUtc := by
  cases x with
  | finite q =>
    unfold fromtimestamp at ran
    dsimp only at ran
    split at ran
    · cases ran
      rfl
    · cases ran
  | _ => cases ran

theorem fromtimestamp_error {x : Float64} {e : PyError} (ran : fromtimestamp x = .error e) :
    e ∈ [PyError.overflow, .os, .value] := by
  cases x with
  | finite q =>
    unfold fromtimestamp at ran
    dsimp only at ran
    split at ran
    · cases ran
    · cases ran
      decide
  | _ =>
    cases ran
    decide

theorem returns_fromtimestamp (x : Float64) :
    Returns (handling [.overflow, .os, .value] (fromtimestamp x)) := by
  cases ran : fromtimestamp x with
  | ok s =>
    refine ⟨some s, rfl, ?_⟩
    rintro _ ⟨⟩
    exact fromtimestamp_ok ran
  | error e =>
    rw [handling, if_pos (fromtimestamp_error ran)]
    exact .nothing

section Escape
variable {digits : Digits} {rounded : Rat → Rat}

theorem returns_fromNumber (x : Float64) : Returns (fromNumber rounded x) := by
  cases x with
  | finite q =>
    rw [fromNumber]
    split
    · exact .nothing
    · exact returns_fromtimestamp _
  | negInf => exact .nothing
  | inf => exact returns_fromtimestamp .inf
  | nan => exact returns_fromtimestamp .nan

theorem fromEpoch_ok (x : Float64) : fromEpoch rounded (.ok x) = fromNumber rounded x := rfl

theorem returns_fromEpoch_int (n : Int) :
    Returns (fromEpoch rounded (toFloat rounded n)) ↔ n.natAbs < floatBound := by
  rw [toFloat]
  split
  · rename_i big
    exact iff_of_false (not_returns_error _) (Nat.not_lt.mpr big)
  · rename_i small
    rw [fromEpoch_ok]
    exact iff_of_true (returns_fromNumber _) (Nat.not_le.mp small)

variable (digits)

/-- The text of digits that `int` does not read, or reads as a number beyond the doubles. -/
def BadDigits (raw : Text) : Prop := ¬Readable digits raw ∨ floatBound ≤ number digits raw

/-- The inputs on which an exception reaches the caller. -/
def Escapes : Value → Prop
  | .int n => floatBound ≤ n.natAbs
  | .str t =>
    let raw := Text.strip t
    raw ≠ [] ∧ if raw.all digits.isDigit then BadDigits digits raw
      else ∃ stamp, fromisoformat (isoText raw) = some stamp ∧ stamp.Beyond
  | .datetime s => s.Beyond
  | _ => False

variable {digits}

theorem returns_digits (raw : Text) :
    Returns (do fromEpoch rounded (toFloat rounded (← toInt digits raw))) ↔
      ¬BadDigits digits raw := by
  unfold BadDigits toInt
  by_cases readable : Readable digits raw
  · have small : Returns (fromEpoch rounded (toFloat rounded (number digits raw))) ↔ _ :=
      returns_fromEpoch_int (number digits raw)
    rw [Int.natAbs_natCast, ← Nat.not_le] at small
    rw [if_pos readable, or_iff_right (not_not.mpr readable)]
    exact small
  · rw [if_neg readable]
    exact iff_of_false (not_returns_error _) (not_not.mpr (.inl readable))

theorem returns_iso (raw : Text) :
    Returns (match fromisoformat (isoText raw) with
      | none => return none
      | some stamp => handling [.value] stamp.ensureAware) ↔
      ¬∃ stamp, fromisoformat (isoText raw) = some stamp ∧ stamp.Beyond := by
  cases fromisoformat (isoText raw) with
  | none => exact iff_of_true .nothing (by simp)
  | some stamp => exact (returns_ensureAware (by decide) stamp).trans (by simp)

theorem returns_text (t : Text) : Returns (parseText digits rounded t) ↔
    ¬Escapes digits (.str t) := by
  unfold parseText Escapes
  dsimp only
  by_cases blank : Text.strip t = []
  · rw [if_pos blank]
    exact iff_of_true .nothing (by simp [blank])
  rw [if_neg blank]
  by_cases all : (Text.strip t).all digits.isDigit = true
  · rw [if_pos all, if_pos all]
    exact (returns_digits _).trans (by simp [blank])
  · rw [if_neg all, if_neg all]
    exact (returns_iso _).trans (by simp [blank])

/-- A timestamp is read, or found to be none, exactly on the inputs that are not among those. -/
theorem parseTimestamp_returns_iff (digits : Digits) (rounded : Rat → Rat) (value : Value) :
    Returns (parseTimestamp digits rounded value) ↔ ¬Escapes digits value := by
  cases value with
  | int n => exact (returns_fromEpoch_int n).trans Nat.not_le.symm
  | float x =>
    rw [parseTimestamp, fromEpoch_ok]
    exact iff_of_true (returns_fromNumber x) id
  | str t =>
    by_cases empty : t = []
    · subst empty
      exact iff_of_true .nothing fun escapes => escapes.1 rfl
    · rw [parseTimestamp, if_neg empty]
      exact returns_text t
  | datetime s => exact returns_ensureAware List.not_mem_nil s
  | _ => exact iff_of_true .nothing id

end Escape

/-- The ASCII digits, and the superscript two, which is a digit and not a decimal one. -/
def superscripts : Digits where
  isDigit c := c.isDigit || c == '²'
  decimal c := if c.isDigit then some (c.toNat - 48) else none

example : (parseTimestamp superscripts id (.str "2026-08-15T12:00:00+05:30".ascii)).map
    (Option.map Stamp.micros) = .ok (some ((Date.ordinal ⟨2026, 8, 15⟩ - 1) * microsPerDay + 23400000000)) := by
  decide +kernel

/-- An integer past the doubles, a digit that `int` does not read, and a time before year 1. -/
theorem parseTimestamp_raises :
    parseTimestamp superscripts id (.int (10 ^ 400)) = .error .overflow ∧
      parseTimestamp superscripts id (.str ['²']) = .error .value ∧
        parseTimestamp superscripts id (.str "0001-01-01T00:00:00+23:59".ascii) =
          .error .overflow := by
  refine ⟨?_, ?_, ?_⟩ <;> decide +kernel

end RangeApply.TimeUtils
