/-
# Moments

A moment is a date and a time of day in UTC, to the nanosecond. A minute may have a sixty-first
second. Moments are written as RFC 3339 has it, with as many groups of three decimals as they
need. Reading allows one-digit fields and blanks between the parts, and moves a moment with an
offset to UTC.
-/

import Ensemble.Document.Decoding
import Ensemble.Text.Blank
import Ensemble.Text.Digits

namespace Ensemble

/-- Whether a year of the Gregorian calendar has a 29th of February. -/
def isLeapYear (year : Int) : Bool :=
  year % 4 == 0 && (year % 100 != 0 || year % 400 == 0)

/-- How many days a month has; none if there is no such month. -/
def daysInMonth (year : Int) (month : Nat) : Nat :=
  match month with
  | 1 | 3 | 5 | 7 | 8 | 10 | 12 => 31
  | 4 | 6 | 9 | 11 => 30
  | 2 => if isLeapYear year then 29 else 28
  | _ => 0

/-- A day of the Gregorian calendar. -/
structure Day where
  year : Int
  month : Nat
  day : Nat
deriving DecidableEq, Repr

namespace Day

/-- Whether the calendar has the day, between the years that moments may lie in. -/
def isValid (date : Day) : Bool :=
  decide (-262143 ≤ date.year) && decide (date.year ≤ 262142) && decide (1 ≤ date.day) &&
    decide (date.day ≤ daysInMonth date.year date.month)

/-- The day after. -/
def next (date : Day) : Day :=
  if date.day < daysInMonth date.year date.month then { date with day := date.day + 1 }
  else if date.month < 12 then ⟨date.year, date.month + 1, 1⟩
  else ⟨date.year + 1, 1, 1⟩

/-- The day before. -/
def previous (date : Day) : Day :=
  if 1 < date.day then { date with day := date.day - 1 }
  else if 1 < date.month then
    ⟨date.year, date.month - 1, daysInMonth date.year (date.month - 1)⟩
  else ⟨date.year - 1, 12, 31⟩

end Day

/-- A time of day: the minute of the day, the second of the minute, and the nanosecond. -/
structure TimeOfDay where
  minute : Nat
  second : Nat
  nanosecond : Nat
deriving DecidableEq, Repr

/-- Whether there is such a time of day. -/
def TimeOfDay.isValid (time : TimeOfDay) : Bool :=
  decide (time.minute < 1440) && decide (time.second ≤ 60) && decide (time.nanosecond < 1000000000)

/-- A moment in UTC. -/
structure Moment where
  day : Day
  time : TimeOfDay
  isValid : (day.isValid && time.isValid) = true
deriving DecidableEq, Repr

namespace Moment

instance : Inhabited Moment := ⟨⟨⟨1970, 1, 1⟩, ⟨0, 0, 0⟩, by decide⟩⟩

/-- A day and a time at an offset of so many minutes from UTC, if that is a moment. -/
def ofLocal? (day : Day) (time : TimeOfDay) (offset : Int) : Option Moment :=
  let minute : Int := time.minute - offset
  let date := if minute < 0 then day.previous else if 1440 ≤ minute then day.next else day
  let clock : TimeOfDay := { time with minute := (minute % 1440).toNat }
  if !(day.isValid && time.isValid) then none
  else if h : (date.isValid && clock.isValid) = true then some ⟨date, clock, h⟩ else none

/-- The characters of a year: four digits, or a sign and at least four. -/
def yearChars (year : Int) : List Char :=
  if 0 ≤ year ∧ year ≤ 9999 then Text.fixedDigits 10 4 year.toNat
  else
    let digits := Nat.toDigits 10 year.natAbs
    (if year < 0 then '-' else '+') :: List.replicate (4 - digits.length) '0' ++ digits

/-- The decimals of a second, in the fewest groups of three. -/
def fractionChars (nanosecond : Nat) : List Char :=
  if nanosecond = 0 then []
  else if nanosecond % 1000000 = 0 then '.' :: Text.fixedDigits 10 3 (nanosecond / 1000000)
  else if nanosecond % 1000 = 0 then '.' :: Text.fixedDigits 10 6 (nanosecond / 1000)
  else '.' :: Text.fixedDigits 10 9 nanosecond

/-- The text of a moment. -/
def text (moment : Moment) : String :=
  String.ofList (yearChars moment.day.year ++ '-' :: Text.fixedDigits 10 2 moment.day.month ++
    '-' :: Text.fixedDigits 10 2 moment.day.day ++ 'T' ::
    Text.fixedDigits 10 2 (moment.time.minute / 60) ++ ':' ::
    Text.fixedDigits 10 2 (moment.time.minute % 60) ++ ':' ::
    Text.fixedDigits 10 2 moment.time.second ++ fractionChars moment.time.nanosecond ++ ['Z'])

/-- Read a year: digits behind a sign, or up to four digits. -/
def readYear? (chars : List Char) : Option (Int × List Char) :=
  match chars with
  | '-' :: rest => (Text.readNumber? rest.length rest).map fun read => (-(read.1 : Int), read.2)
  | '+' :: rest => (Text.readNumber? rest.length rest).map fun read => ((read.1 : Int), read.2)
  | _ => (Text.readNumber? 4 chars).map fun read => ((read.1 : Int), read.2)

/-- Read one or two digits, behind blanks. -/
def readPart? (chars : List Char) : Option (Nat × List Char) :=
  Text.readNumber? 2 (Text.trimStartChars chars)

/-- Read a mark, behind blanks. -/
def readMark? (mark : Char) (chars : List Char) : Option (List Char) :=
  match Text.trimStartChars chars with
  | c :: rest => if c = mark then some rest else none
  | [] => none

/-- Read the decimals of a second, if there are any: up to nine count, and the others are
skipped. -/
def readFraction? (chars : List Char) : Option (Nat × List Char) :=
  match chars with
  | '.' :: rest =>
    match Text.takeNumber 0 0 9 rest with
    | (_, 0, _) => none
    | (number, taken, others) => some (number * Nat.pow 10 (9 - taken), others.dropWhile Char.isDigit)
  | _ => some (0, chars)

/-- Read two digits of an offset. -/
def readPair? (chars : List Char) : Option (Nat × List Char) :=
  match chars with
  | a :: b :: rest => do return ((← Text.decimalDigit? a) * 10 + (← Text.decimalDigit? b), rest)
  | _ => none

/-- Read hours and minutes of an offset behind its sign. -/
def readOffsetParts? (negative : Bool) (chars : List Char) : Option (Int × List Char) := do
  let (hours, rest) ← readPair? chars
  let (minutes, rest) ← readPair? (rest.dropWhile fun c => c == ':' || Text.isBlank c)
  let total : Int := hours * 60 + minutes
  if minutes < 60 ∧ hours < 24 then return (if negative then -total else total, rest) else none

/-- Read an offset in minutes. -/
def readOffset? (chars : List Char) : Option (Int × List Char) :=
  match chars with
  | 'Z' :: rest => some (0, rest)
  | 'z' :: rest => some (0, rest)
  | '+' :: rest => readOffsetParts? false rest
  | '-' :: rest => readOffsetParts? true rest
  | '−' :: rest => readOffsetParts? true rest
  | a :: b :: c :: rest =>
    if [a, b, c].map Char.toUpper = ['U', 'T', 'C'] then some (0, rest) else none
  | _ => none

/-- Read what separates the date from the time. -/
def readDivider? (chars : List Char) : Option (List Char) :=
  match chars with
  | c :: rest => if c = 'T' ∨ c = 't' ∨ c = ' ' then some rest else none
  | [] => none

/-- Read a moment. -/
def ofChars? (chars : List Char) : Option Moment := do
  let (year, rest) ← readYear? (Text.trimStartChars chars)
  let (month, rest) ← readPart? (← readMark? '-' rest)
  let (day, rest) ← readPart? (← readMark? '-' rest)
  let (hour, rest) ← readPart? (← readDivider? rest)
  let (minute, rest) ← readPart? (← readMark? ':' rest)
  let (second, rest) ← readPart? (← readMark? ':' rest)
  let (nanosecond, rest) ← readFraction? rest
  let (offset, rest) ← readOffset? (Text.trimStartChars rest)
  if hour < 24 ∧ minute < 60 ∧ rest.all Text.isBlank then
    ofLocal? ⟨year, month, day⟩ ⟨hour * 60 + minute, second, nanosecond⟩ offset
  else none

/-- A moment as its text. -/
def encode (moment : Moment) : Value :=
  .text moment.text

/-- Read a moment from a value. -/
def decode : Value → Decoded Moment
  | .text text =>
    match ofChars? text.toList with
    | some moment => .ok moment
    | none => .error (.malformed "date")
  | found => .error (.kind found "an RFC 3339 formatted date and time string")

end Moment

end Ensemble
