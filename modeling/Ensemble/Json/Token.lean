/-
# JSON tokens

The words of a JSON text, each with the place where it starts. A word that cannot be read
becomes a fault token, which ends the list: whether the fault is reported depends on what is
expected at its place.
-/

import Ensemble.Document.Value
import Ensemble.Text.Digits

namespace Ensemble.Json

/-- What can be wrong with a JSON text. -/
inductive Problem where
  | endInValue
  | endInList
  | endInRecord
  | endInText
  | expectedValue
  | expectedWord
  | expectedColon
  | expectedListEnd
  | expectedRecordEnd
  | expectedKey
  | trailingComma
  | trailingCharacters
  | invalidNumber
  | numberOutOfRange
  | invalidEscape
  | endOfHexEscape
  | loneSurrogate
  | controlCharacter
  | tooDeep
deriving DecidableEq, Repr

/-- The sentence for a problem. -/
def Problem.message : Problem → String
  | endInValue => "EOF while parsing a value"
  | endInList => "EOF while parsing a list"
  | endInRecord => "EOF while parsing an object"
  | endInText => "EOF while parsing a string"
  | expectedValue => "expected value"
  | expectedWord => "expected ident"
  | expectedColon => "expected `:`"
  | expectedListEnd => "expected `,` or `]`"
  | expectedRecordEnd => "expected `,` or `\x7d`"
  | expectedKey => "key must be a string"
  | trailingComma => "trailing comma"
  | trailingCharacters => "trailing characters"
  | invalidNumber => "invalid number"
  | numberOutOfRange => "number out of range"
  | invalidEscape => "invalid escape"
  | endOfHexEscape => "unexpected end of hex escape"
  | loneSurrogate => "lone leading surrogate in hex escape"
  | controlCharacter => "control character (\\u0000-\\u001F) found while parsing a string"
  | tooDeep => "recursion limit exceeded"

/-- A problem and its place: `bytes` bytes into the characters `rest`, with which the text ends. -/
structure Fault where
  problem : Problem
  rest : List Char
  bytes : Nat
deriving DecidableEq, Repr

/-- A problem in front of the characters `rest`. -/
def Fault.before (problem : Problem) (rest : List Char) : Fault := ⟨problem, rest, 0⟩

/-- A problem at the next byte of `rest`. -/
def Fault.within (problem : Problem) (rest : List Char) : Fault := ⟨problem, rest, 1⟩

/-- A word of a JSON text. -/
inductive Token where
  | openList
  | closeList
  | openRecord
  | closeRecord
  | comma
  | colon
  | text (value : String)
  | scalar (value : Value)
  | stray
  | fault (opensText : Bool) (fault : Fault)
deriving Repr

/-- The four characters that may stand between words. -/
def isSpace (c : Char) : Bool :=
  c == ' ' || c == '\n' || c == '\t' || c == '\r'

/-- The number that four hexadecimal digits write. -/
def hexUnit? (a b c d : Char) : Option Nat := do
  return (((← Text.hexDigit? a) * 16 + (← Text.hexDigit? b)) * 16 + (← Text.hexDigit? c)) * 16 +
    (← Text.hexDigit? d)

/-- The size of characters in UTF-8. -/
def byteSize : List Char → Nat
  | [] => 0
  | c :: rest => c.utf8Size + byteSize rest

/-- The fault of a hexadecimal escape whose digits are missing at the front of `rest`. -/
def hexFault (rest : List Char) : Fault :=
  if byteSize rest < 4 then .before .endInText [] else ⟨.invalidEscape, rest, 4⟩

/-- What a backslash and one more character stand for. -/
def shortEscape? : Char → Option Char
  | '"' => some '"'
  | '\\' => some '\\'
  | '/' => some '/'
  | 'b' => some '\x08'
  | 'f' => some '\x0c'
  | 'n' => some '\n'
  | 'r' => some '\r'
  | 't' => some '\t'
  | _ => none

/-- The character of a surrogate pair. -/
def pairChar (leading trailing : Nat) : Char :=
  Char.ofNat (0x10000 + (leading - 0xD800) * 0x400 + (trailing - 0xDC00))

/-- The fault after a leading surrogate that no trailing one follows. -/
def pairFault : List Char → Fault
  | [] => .before .endInText []
  | '\\' :: [] => .before .endInText []
  | '\\' :: 'u' :: rest => hexFault rest
  | '\\' :: c :: rest => .within .endOfHexEscape (c :: rest)
  | c :: rest => .within .endOfHexEscape (c :: rest)

/-- Put a character in front of what was read. -/
def consChar (c : Char) :
    Except Fault (List Char × List Char) → Except Fault (List Char × List Char)
  | .ok (value, rest) => .ok (c :: value, rest)
  | .error fault => .error fault

/-- Read a text up to its closing quote; also what follows the quote. -/
def readText : List Char → Except Fault (List Char × List Char)
  | [] => .error (.before .endInText [])
  | '"' :: rest => .ok ([], rest)
  | '\\' :: [] => .error (.before .endInText [])
  | '\\' :: 'u' :: a :: b :: c :: d :: rest =>
    match hexUnit? a b c d with
    | none => .error (hexFault (a :: b :: c :: d :: rest))
    | some unit =>
      if 0xDC00 ≤ unit ∧ unit ≤ 0xDFFF then .error (.before .loneSurrogate rest)
      else if 0xD800 ≤ unit ∧ unit ≤ 0xDBFF then
        match rest with
        | '\\' :: 'u' :: a' :: b' :: c' :: d' :: rest' =>
          match hexUnit? a' b' c' d' with
          | none => .error (hexFault (a' :: b' :: c' :: d' :: rest'))
          | some trailing =>
            if 0xDC00 ≤ trailing ∧ trailing ≤ 0xDFFF then
              consChar (pairChar unit trailing) (readText rest')
            else .error (.before .loneSurrogate rest')
        | other => .error (pairFault other)
      else consChar (Char.ofNat unit) (readText rest)
  | '\\' :: 'u' :: rest => .error (hexFault rest)
  | '\\' :: c :: rest =>
    match shortEscape? c with
    | some escaped => consChar escaped (readText rest)
    | none => .error (.within .invalidEscape (c :: rest))
  | c :: rest =>
    if c.toNat < 0x20 then .error (.within .controlCharacter (c :: rest))
    else consChar c (readText rest)

/-- Take digits as long as the whole number stays below `2 ^ 64`: the number, how many digits
were taken, and the rest. -/
def takeDigits (significand taken : Nat) : List Char → Nat × Nat × List Char
  | [] => (significand, taken, [])
  | c :: rest =>
    let next := significand * 10 + (c.toNat - '0'.toNat)
    if c.isDigit && decide (next < UInt64.size) then takeDigits next (taken + 1) rest
    else (significand, taken, c :: rest)

/-- Whether the next character is a digit. -/
def startsWithDigit : List Char → Bool
  | c :: _ => c.isDigit
  | [] => false

/-- A power of ten as a double. -/
def tenTo (power : Nat) : Binary64 :=
  Binary.ofDecimal false 1 power

/-- Divide by `10 ^ power`, at most `10 ^ 308` at a time. After two full steps nothing of a
64-bit significand is left. -/
def scaleDown (value : Binary64) (power : Nat) : Binary64 :=
  if power ≤ 308 then value.div (tenTo power)
  else
    let once := value.div (tenTo 308)
    if power - 308 ≤ 308 then once.div (tenTo (power - 308)) else once.div (tenTo 308)

/-- The double for `significand * 10 ^ exponent`: the significand is rounded to a double, scaled
by a power of ten, and rounded again. `none` when it is too large. -/
def scaledDouble (significand : Nat) (exponent : Int) : Option Binary64 :=
  let value : Binary64 := Binary.ofInt significand
  if exponent < 0 then some (scaleDown value exponent.natAbs)
  else if significand = 0 then some value
  else
    let product := value.mul (tenTo exponent.natAbs)
    if exponent ≤ 308 ∧ product.isFinite then some product else none

/-- The float `significand * 10 ^ exponent` with its sign, in front of `rest`. -/
def finishFloat (negative : Bool) (significand : Nat) (exponent : Int) (rest : List Char) :
    Except Fault (Number × List Char) :=
  match scaledDouble significand exponent with
  | some value => .ok (.double (if negative then value.neg else value), rest)
  | none => .error (.before .numberOutOfRange rest)

/-- Read the digits of a power of ten as long as it stays below `2 ^ 31`; the flag says that it
did not, and the digit that went too far is consumed. -/
def takePower (power : Nat) : List Char → Nat × Bool × List Char
  | [] => (power, false, [])
  | c :: rest =>
    if c.isDigit then
      let next := power * 10 + (c.toNat - '0'.toNat)
      if next < Nat.pow 2 31 then takePower next rest else (power, true, rest)
    else (power, false, c :: rest)

/-- Read a power of ten behind its mark. -/
def readPower (negative : Bool) (significand : Nat) (exponent : Int) (chars : List Char) :
    Except Fault (Number × List Char) :=
  let down := chars.head? == some '-'
  let digits := if chars.head? == some '+' || down then chars.drop 1 else chars
  if startsWithDigit digits then
    match takePower 0 digits with
    | (power, false, rest) =>
      finishFloat negative significand (if down then exponent - power else exponent + power) rest
    | (_, true, rest) =>
      if significand ≠ 0 ∧ !down then .error (.before .numberOutOfRange rest)
      else .ok (.double (.zero negative), rest.dropWhile Char.isDigit)
  else if digits.isEmpty then .error (.before .endInValue [])
  else .error (.within .invalidNumber digits)

/-- A power of ten if there is one, else the end of a float. -/
def readOptionalPower (negative : Bool) (significand : Nat) (exponent : Int)
    (chars : List Char) : Except Fault (Number × List Char) :=
  match chars with
  | 'e' :: rest => readPower negative significand exponent rest
  | 'E' :: rest => readPower negative significand exponent rest
  | _ => finishFloat negative significand exponent chars

/-- Read the digits behind a point. Digits that the significand has no room for are skipped. -/
def readFraction (negative : Bool) (significand : Nat) (exponent : Int) (chars : List Char) :
    Except Fault (Number × List Char) :=
  match takeDigits significand 0 chars with
  | (digits, taken, rest) =>
    if startsWithDigit rest then
      readOptionalPower negative digits (exponent - taken) (rest.dropWhile Char.isDigit)
    else if taken = 0 then
      if rest.isEmpty then .error (.before .endInValue []) else .error (.within .invalidNumber rest)
    else readOptionalPower negative digits (exponent - taken) rest

/-- A whole number if it fits 64 bits with its sign, else a float; minus zero is a float. -/
def wholeNumber (negative : Bool) (significand : Nat) : Number :=
  if negative then
    if significand = 0 ∨ Nat.pow 2 63 < significand then .double (Binary.ofInt significand).neg
    else .integer (-significand)
  else .integer significand

/-- Read what follows the digits before the point. -/
def readAfterDigits (negative : Bool) (significand : Nat) (skipped : Nat) (chars : List Char) :
    Except Fault (Number × List Char) :=
  match chars with
  | '.' :: rest => readFraction negative significand skipped rest
  | 'e' :: rest => readPower negative significand skipped rest
  | 'E' :: rest => readPower negative significand skipped rest
  | _ =>
    if skipped = 0 then .ok (wholeNumber negative significand, chars)
    else finishFloat negative significand skipped chars

/-- Read a number behind its sign. -/
def readNumber (negative : Bool) (chars : List Char) : Except Fault (Number × List Char) :=
  match chars with
  | [] => .error (.before .endInValue [])
  | '0' :: rest =>
    if startsWithDigit rest then .error (.within .invalidNumber rest)
    else readAfterDigits negative 0 0 rest
  | c :: rest =>
    if c.isDigit then
      match takeDigits 0 0 (c :: rest) with
      | (significand, _, rest') =>
        let beyond := rest'.dropWhile Char.isDigit
        readAfterDigits negative significand (rest'.length - beyond.length) beyond
    else .error (.within .invalidNumber (c :: rest))

/-- Read the remaining characters of a word. -/
def readWord (value : Value) : List Char → List Char → Except Fault (Value × List Char)
  | [], rest => .ok (value, rest)
  | _ :: _, [] => .error (.before .endInValue [])
  | expected :: more, c :: rest =>
    if c = expected then readWord value more rest else .error (.within .expectedWord (c :: rest))

/-- A word that is read has the value that it stands for. -/
theorem value_of_readWord {value found : Value} {expected chars rest : List Char}
    (h : readWord value expected chars = .ok (found, rest)) : found = value := by
  induction expected generalizing chars with
  | nil =>
      cases h
      rfl
  | cons first more ih =>
      cases chars with
      | nil => cases h
      | cons c behind =>
          rw [readWord] at h
          split at h
          · exact ih h
          · cases h

/-- The word at the front of a text that does not start with a space, and what follows it. After
a fault nothing follows. -/
def nextToken (c : Char) (rest : List Char) : Token × List Char :=
  let scalar (result : Except Fault (Value × List Char)) : Token × List Char :=
    match result with
    | .ok (value, after) => (.scalar value, after)
    | .error fault => (.fault false fault, [])
  let number (result : Except Fault (Number × List Char)) : Token × List Char :=
    match result with
    | .ok (value, after) => (.scalar (.number value), after)
    | .error fault => (.fault false fault, [])
  match c with
  | '[' => (.openList, rest)
  | ']' => (.closeList, rest)
  | '\x7b' => (.openRecord, rest)
  | '\x7d' => (.closeRecord, rest)
  | ',' => (.comma, rest)
  | ':' => (.colon, rest)
  | '"' =>
    match readText rest with
    | .ok (value, after) => (.text (String.ofList value), after)
    | .error fault => (.fault true fault, [])
  | 'n' => scalar (readWord .null ['u', 'l', 'l'] rest)
  | 't' => scalar (readWord (.boolean true) ['r', 'u', 'e'] rest)
  | 'f' => scalar (readWord (.boolean false) ['a', 'l', 's', 'e'] rest)
  | '-' => number (readNumber true rest)
  | _ => if c.isDigit then number (readNumber false (c :: rest)) else (.stray, rest)

/-- The words of a text with the characters from each word on. The characters behind a word are
fewer than those before it, so `fuel` of at least their number is never used up. -/
def tokensWithin : Nat → List Char → List (Token × List Char)
  | 0, _ => []
  | _ + 1, [] => []
  | fuel + 1, c :: rest =>
    if isSpace c then tokensWithin fuel rest
    else
      let next := nextToken c rest
      (next.1, c :: rest) :: tokensWithin fuel next.2

/-- What every single word is, all words of a text are. -/
theorem forall_mem_tokensWithin {P : Token → Prop} (h : ∀ c rest, P (nextToken c rest).1)
    (fuel : Nat) (chars : List Char) : ∀ word ∈ tokensWithin fuel chars, P word.1 := by
  induction fuel generalizing chars with
  | zero => exact List.forall_mem_nil _
  | succ fuel ih =>
      cases chars with
      | nil => exact List.forall_mem_nil _
      | cons c rest =>
          rw [tokensWithin]
          split
          · exact ih rest
          · exact List.forall_mem_cons.2 ⟨h c rest, ih _⟩

/-- The words of a text, each with the characters from it on. -/
def tokens (chars : List Char) : List (Token × List Char) :=
  tokensWithin chars.length chars

end Ensemble.Json
