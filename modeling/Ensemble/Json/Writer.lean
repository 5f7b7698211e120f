/-
# Writing JSON

The compact form has no space between words; the indented form has a line for every item and
member, two spaces deeper than what holds it. A float that is not finite is written as null.
-/

import Ensemble.Document.Value
import Ensemble.Number.Decimal
import Ensemble.Text.Digits

namespace Ensemble.Json

/-- Doubles are positional from `1e-5` up to, but not including, `1e16`. -/
def doubleStyle : NumberStyle := ⟨fun power => decide (-5 ≤ power) && decide (power ≤ 15), true⟩

/-- Singles are positional from `1e-6` up to, but not including, `1e13`. -/
def singleStyle : NumberStyle := ⟨fun power => decide (-6 ≤ power) && decide (power ≤ 12), true⟩

/-- The text of a number. -/
def numberText : Number → String
  | .integer value => toString value
  | .double value => if value.isFinite then value.text doubleStyle else "null"
  | .single value => if value.isFinite then value.text singleStyle else "null"

/-- How a character is written between quotes. -/
def escapeChar (c : Char) : List Char :=
  match c with
  | '"' => ['\\', '"']
  | '\\' => ['\\', '\\']
  | '\x08' => ['\\', 'b']
  | '\x0c' => ['\\', 'f']
  | '\n' => ['\\', 'n']
  | '\r' => ['\\', 'r']
  | '\t' => ['\\', 't']
  | _ =>
    if c.toNat < 0x20 then
      ['\\', 'u', '0', '0', Text.hexDigit (c.toNat / 16), Text.hexDigit (c.toNat % 16)]
    else [c]

/-- A text between quotes. -/
def textChars (text : String) : List Char :=
  '"' :: text.toList.flatMap escapeChar ++ ['"']

mutual

/-- The characters of a value in compact form. -/
def compactChars : Value → List Char
  | .null => ['n', 'u', 'l', 'l']
  | .boolean true => ['t', 'r', 'u', 'e']
  | .boolean false => ['f', 'a', 'l', 's', 'e']
  | .number value => (numberText value).toList
  | .text value => textChars value
  | .list items => '[' :: itemChars items ++ [']']
  | .record members => '\x7b' :: memberChars members ++ ['\x7d']

/-- The items of a list with commas between them. -/
def itemChars : List Value → List Char
  | [] => []
  | [item] => compactChars item
  | item :: rest => compactChars item ++ ',' :: itemChars rest

/-- The members of a record with commas between them. -/
def memberChars : List (String × Value) → List Char
  | [] => []
  | [(key, value)] => textChars key ++ ':' :: compactChars value
  | (key, value) :: rest => textChars key ++ ':' :: compactChars value ++ ',' :: memberChars rest

end

/-- The compact form of a value. -/
def compact (value : Value) : String :=
  String.ofList (compactChars value)

/-- A new line with so many levels of indentation. -/
def newLine (depth : Nat) : List Char :=
  '\n' :: List.replicate (2 * depth) ' '

mutual

/-- The characters of a value in indented form, so many levels deep. Empty lists and records
stay on one line. -/
def indentedChars (depth : Nat) : Value → List Char
  | .list [] => ['[', ']']
  | .list items => '[' :: indentedItems (depth + 1) items ++ newLine depth ++ [']']
  | .record [] => ['\x7b', '\x7d']
  | .record members => '\x7b' :: indentedMembers (depth + 1) members ++ newLine depth ++ ['\x7d']
  | .null => compactChars .null
  | .boolean value => compactChars (.boolean value)
  | .number value => compactChars (.number value)
  | .text value => compactChars (.text value)

/-- The items of a list, each on its line. -/
def indentedItems (depth : Nat) : List Value → List Char
  | [] => []
  | [item] => newLine depth ++ indentedChars depth item
  | item :: rest => newLine depth ++ indentedChars depth item ++ ',' :: indentedItems depth rest

/-- The members of a record, each on its line. -/
def indentedMembers (depth : Nat) : List (String × Value) → List Char
  | [] => []
  | [(key, value)] => newLine depth ++ textChars key ++ ':' :: ' ' :: indentedChars depth value
  | (key, value) :: rest =>
    newLine depth ++ textChars key ++ ':' :: ' ' :: indentedChars depth value ++
      ',' :: indentedMembers depth rest

end

/-- The indented form of a value. -/
def indented (value : Value) : String :=
  String.ofList (indentedChars 0 value)

end Ensemble.Json
