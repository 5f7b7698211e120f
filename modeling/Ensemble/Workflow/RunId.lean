/-
# Run identifiers

A run is identified by 128 bits, written as 32 hexadecimal digits in five groups. They are read
with or without the hyphens, in braces, or behind `urn:uuid:`, in letters of any case.
-/

import Ensemble.Document.Decoding
import Ensemble.Text.Digits

namespace Ensemble

/-- The identifier of a run. -/
structure RunId where
  bits : Nat
  bits_lt : bits < Nat.pow 2 128
deriving DecidableEq, Repr

namespace RunId

instance : Inhabited RunId := ⟨⟨0, by decide⟩⟩

/-- Thirty-two digits in groups of 8, 4, 4, 4 and 12. -/
def grouped (digits : List Char) : List Char :=
  digits.take 8 ++ '-' :: (digits.drop 8).take 4 ++ '-' :: (digits.drop 12).take 4 ++
    '-' :: (digits.drop 16).take 4 ++ '-' :: digits.drop 20

/-- The digits of five groups with hyphens between them. -/
def ungrouped? (chars : List Char) : Option (List Char) :=
  if chars.length = 36 ∧ chars[8]? = some '-' ∧ chars[13]? = some '-' ∧ chars[18]? = some '-' ∧
      chars[23]? = some '-' then
    some (chars.take 8 ++ (chars.drop 9).take 4 ++ (chars.drop 14).take 4 ++
      (chars.drop 19).take 4 ++ chars.drop 24)
  else none

/-- The identifier with these digits. -/
def ofDigits? (digits : List Char) : Option RunId :=
  match Text.readHex 0 digits with
  | some bits => if h : bits < Nat.pow 2 128 then some ⟨bits, h⟩ else none
  | none => none

/-- The text of an identifier. -/
def text (id : RunId) : String :=
  String.ofList (grouped (Text.fixedDigits 16 32 id.bits))

/-- The characters without what may stand around a grouped identifier. -/
def unwrapped (chars : List Char) : List Char :=
  if chars.length = 38 ∧ chars.head? = some '\x7b' ∧ chars.getLast? = some '\x7d' then
    chars.tail.dropLast
  else if chars.length = 45 ∧ chars.take 9 = "urn:uuid:".toList then chars.drop 9
  else chars

/-- Read an identifier. -/
def ofText? (text : String) : Option RunId :=
  let chars := text.toList
  if chars.length = 32 then ofDigits? chars
  else (ungrouped? (unwrapped chars)).bind ofDigits?

/-- An identifier as its text. -/
def encode (id : RunId) : Value :=
  .text id.text

/-- Read an identifier from a value. -/
def decode : Value → Decoded RunId
  | .text text =>
    match ofText? text with
    | some id => .ok id
    | none => .error (.malformed "UUID")
  | found => .error (.kind found "a UUID string")

end RunId

end Ensemble
