/-
# Numbers, dates and times of TOML documents

Digits may be separated by single underscores. Whole numbers have 64 bits with a sign and do not
start with zero, unless a base is named; floats are as wide as a double and not above its
largest number.
-/

import Ensemble.Document.Value
import Ensemble.Number.Literal
import Ensemble.Number.Range

namespace Ensemble.Toml

/-- The digits at the front, without the underscores between them, and what follows. -/
def takeRun (isDigit : Char → Bool) : List Char → List Char × List Char
  | '_' :: c :: rest =>
    if isDigit c then
      let (digits, beyond) := takeRun isDigit rest
      (c :: digits, beyond)
    else ([], '_' :: c :: rest)
  | c :: rest =>
    if isDigit c then
      let (digits, beyond) := takeRun isDigit rest
      (c :: digits, beyond)
    else ([], c :: rest)
  | [] => ([], [])

/-- The digits at the front, at least one and not an underscore first. -/
def takeDigits? (isDigit : Char → Bool) (chars : List Char) :
    Option (List Char × List Char) :=
  if chars.head?.any isDigit then some (takeRun isDigit chars) else none

/-- A sign at the front, as it is written. -/
def takeSignChar (chars : List Char) : List Char × List Char :=
  match chars with
  | '+' :: rest => (['+'], rest)
  | '-' :: rest => (['-'], rest)
  | _ => ([], chars)

/-- A whole number in base ten at the front. A zero stands alone. -/
def takeWhole? (chars : List Char) : Option (List Char × List Char) := do
  let (sign, rest) := takeSignChar chars
  match rest with
  | '0' :: beyond => return (sign ++ ['0'], beyond)
  | _ =>
    let (digits, beyond) ← takeDigits? Char.isDigit rest
    return (sign ++ digits, beyond)

/-- The part of a number behind a point. -/
def takeFraction? : List Char → Option (List Char × List Char)
  | '.' :: rest => do
    let (digits, beyond) ← takeDigits? Char.isDigit rest
    return ('.' :: digits, beyond)
  | _ => none

/-- A power of ten. -/
def takePower? : List Char → Option (List Char × List Char)
  | c :: rest =>
    if c = 'e' ∨ c = 'E' then do
      let (sign, digits) := takeSignChar rest
      let (digits, beyond) ← takeDigits? Char.isDigit digits
      return ('e' :: sign ++ digits, beyond)
    else none
  | [] => none

/-- A float at the front. -/
def readFloat? (chars : List Char) : Option (Value × List Char) := do
  let (whole, rest) ← takeWhole? chars
  let (literal, beyond) ←
    match takeFraction? rest with
    | some (fraction, rest) =>
      match takePower? rest with
      | some (power, beyond) => some (whole ++ fraction ++ power, beyond)
      | none => some (whole ++ fraction, rest)
    | none => do
      let (power, beyond) ← takePower? rest
      some (whole ++ power, beyond)
  let value : Binary64 ← Binary.ofLiteral? literal
  if value = .infinite false then none
  return (.number (.double value), beyond)

/-- Infinity, perhaps with a sign, or NaN at the front. -/
def readSpecialFloat? (chars : List Char) : Option (Value × List Char) :=
  let (sign, rest) := takeSignChar chars
  match rest with
  | 'i' :: 'n' :: 'f' :: beyond => some (.number (.double (.infinite (sign == ['-']))), beyond)
  | 'n' :: 'a' :: 'n' :: beyond => some (.number (.double .nan), beyond)
  | _ => none

/-- A value for an integer of 64 bits. -/
def ofInteger? (value : Int) : Option Value :=
  if fitsSigned 64 value then some (.number (.integer value)) else none

/-- A whole number in a base at the front. -/
def readBased? (base : Nat) (chars : List Char) : Option (Value × List Char) := do
  let isDigit (c : Char) : Bool := (Text.hexDigit? c).any fun digit => decide (digit < base)
  let (digits, beyond) ← takeDigits? isDigit chars
  return (← ofInteger? (← readDigits? base digits), beyond)

/-- A whole number at the front. -/
def readInteger? (chars : List Char) : Option (Value × List Char) :=
  match chars with
  | '0' :: 'x' :: rest => readBased? 16 rest
  | '0' :: 'o' :: rest => readBased? 8 rest
  | '0' :: 'b' :: rest => readBased? 2 rest
  | _ => do
    let (digits, beyond) ← takeWhole? chars
    return (← ofInteger? (← Ensemble.readInteger? 10 digits), beyond)

/-- A number of so many digits at the front, within bounds. -/
def takeFixed? (count low high : Nat) (chars : List Char) : Option (Nat × List Char) := do
  let digits := chars.take count
  if digits.length ≠ count then none
  let number ← readDigits? 10 digits
  if low ≤ number ∧ number ≤ high then return (number, chars.drop count) else none

/-- Behind a character. -/
def skipChar? (c : Char) : List Char → Option (List Char)
  | first :: rest => if first = c then some rest else none
  | [] => none

/-- The days of a month. -/
def daysOf (year month : Nat) : Nat :=
  let isLeap := year % 4 = 0 ∧ (year % 100 ≠ 0 ∨ year % 400 = 0)
  if month = 2 then (if isLeap then 29 else 28)
  else if month = 4 ∨ month = 6 ∨ month = 9 ∨ month = 11 then 30
  else 31

/-- Behind a date. -/
def skipDate? (chars : List Char) : Option (List Char) := do
  let (year, rest) ← takeFixed? 4 0 9999 chars
  let (month, rest) ← takeFixed? 2 1 12 (← skipChar? '-' rest)
  let (_, rest) ← takeFixed? 2 1 (daysOf year month) (← skipChar? '-' rest)
  return rest

/-- Behind a time of a day. -/
def skipTime? (chars : List Char) : Option (List Char) := do
  let (_, rest) ← takeFixed? 2 0 23 chars
  let (_, rest) ← takeFixed? 2 0 59 (← skipChar? ':' rest)
  let (_, rest) ← takeFixed? 2 0 60 (← skipChar? ':' rest)
  match rest with
  | '.' :: c :: beyond =>
    if c.isDigit then return beyond.dropWhile Char.isDigit else return rest
  | _ => return rest

/-- Behind the distance of a time from universal time, if it is given. -/
def skipOffset (chars : List Char) : List Char :=
  let distance (rest : List Char) : List Char :=
    let beyond : Option (List Char) := do
      let (_, rest) ← takeFixed? 2 0 23 rest
      let (_, rest) ← takeFixed? 2 0 59 (← skipChar? ':' rest)
      return rest
    beyond.getD chars
  match chars with
  | 'Z' :: rest => rest
  | 'z' :: rest => rest
  | '+' :: rest => distance rest
  | '-' :: rest => distance rest
  | _ => chars

/-- Behind a date, a time, or both. -/
def skipMoment? (chars : List Char) : Option (List Char) :=
  match skipDate? chars with
  | none => skipTime? chars
  | some rest =>
    match rest with
    | c :: time =>
      if c = 'T' ∨ c = 't' ∨ c = ' ' then
        match skipTime? time with
        | some beyond => some (skipOffset beyond)
        | none => some rest
      else some rest
    | [] => some rest

/-- A date or a time at the front: a record of its own. -/
def readMoment? (chars : List Char) : Option (Value × List Char) := do
  let beyond ← skipMoment? chars
  let text := chars.take (chars.length - beyond.length)
  return (.record [("moment", .text (String.ofList text))], beyond)

/-- A date, a time or a number at the front. -/
def readNumber? (chars : List Char) : Option (Value × List Char) :=
  match readMoment? chars with
  | some read => some read
  | none =>
    match readFloat? chars with
    | some read => some read
    | none =>
      match readSpecialFloat? chars with
      | some read => some read
      | none => readInteger? chars

end Ensemble.Toml
