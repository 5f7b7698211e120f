/-
# The content of YAML nodes

What plain scalars mean: nothing, truth values, numbers, or texts. Leniently a number is as
wide as it needs to be, so one beyond 64 bits but within 128 is refused and a wider one is a
float; strictly, whole numbers have 64 bits with a sign, all others are floats, and infinity and NaN
count as zero. A record is strictly refused when two of its keys are equal.
-/

import Ensemble.Document.Value
import Ensemble.Number.Literal
import Ensemble.Number.Range
import Ensemble.Yaml.Node

namespace Ensemble.Yaml

/-- The words for nothing in lenient texts. -/
def isNothing (text : String) : Bool :=
  ["null", "Null", "NULL", "~"].contains text

/-- The truth value that a word writes leniently. -/
def boolean? (text : String) : Option Bool :=
  if ["true", "True", "TRUE"].contains text then some true
  else if ["false", "False", "FALSE"].contains text then some false
  else none

/-- A word that starts with a sign. -/
def startsWithSign (chars : List Char) : Bool :=
  chars.head? == some '+' || chars.head? == some '-'

/-- Several digits of which the first is zero are no number. -/
def hasLeadingZero (chars : List Char) : Bool :=
  let digits := if startsWithSign chars then chars.drop 1 else chars
  decide (1 < digits.length) && digits.head? == some '0' && digits.all Char.isDigit

/-- The base that the start of a word names. -/
def namedBase? : List Char → Option (Nat × List Char)
  | '0' :: 'x' :: rest => some (16, rest)
  | '0' :: 'o' :: rest => some (8, rest)
  | '0' :: 'b' :: rest => some (2, rest)
  | _ => none

/-- The size of a whole number without a sign, in its named base or in base ten. -/
def wholeSize? (chars : List Char) : Option Nat :=
  match namedBase? chars with
  | some (base, digits) => readDigits? base digits
  | none => if hasLeadingZero chars then none else readDigits? 10 chars

/-- The integer that a word writes leniently. -/
def integer? (chars : List Char) : Option Int :=
  match chars with
  | '-' :: rest => (wholeSize? rest).map fun size => -(size : Int)
  | '+' :: rest => (wholeSize? rest).map fun size => (size : Int)
  | _ => (wholeSize? chars).map fun size => (size : Int)

/-- What an integer is as a value: `none` when it needs more than 64 bits. Wider than 128 bits it
is no integer. -/
inductive Width where
  | narrow
  | wide
  | beyond
deriving DecidableEq, Repr

/-- The width of an integer; a negative one has a sign bit. -/
def Width.of (value : Int) : Width :=
  if 0 ≤ value then
    if fitsUnsigned 64 value then narrow else if fitsUnsigned 128 value then wide else beyond
  else if fitsSigned 64 value then narrow
  else if fitsSigned 128 value then wide
  else beyond

/-- The float that a word writes leniently. Infinity and NaN are told apart by `isInfinityOrNaN`. -/
def float? (chars : List Char) : Option Binary64 := do
  let size := if chars.head? = some '+' then chars.drop 1 else chars
  if chars.head? = some '+' ∧ startsWithSign size then none
  let value : Binary64 ← Binary.ofLiteral? size
  if value.isFinite then some value else none

/-- The words for infinity, with a sign if need be, and for what is no number. -/
def isInfinityOrNaN (text : String) : Bool :=
  [".inf", ".Inf", ".INF", "+.inf", "+.Inf", "+.INF", "-.inf", "-.Inf", "-.INF", ".nan", ".NaN",
    ".NAN"].contains text

/-- The number that a word writes leniently, where nothing stands for infinity and NaN. The outer
`none` means that it is no number, the inner one that it is refused. -/
def number? (text : String) : Option (Option Value) :=
  let chars := text.toList
  let float : Option (Option Value) :=
    if isInfinityOrNaN text then some (some .null)
    else if hasLeadingZero chars then none
    else (float? chars).map fun value => some (.number (.double value))
  match integer? chars with
  | some value =>
    match Width.of value with
    | .narrow => some (some (.number (.integer value)))
    | .wide => some none
    | .beyond => float
  | none => float

/-- What a plain scalar means leniently; `none` when it is refused. -/
def plainValue? (text : String) : Option Value :=
  if text.isEmpty || isNothing text then some .null
  else
    match boolean? text with
    | some value => some (.boolean value)
    | none => (number? text).getD (some (.text text))

/-- What a plain scalar means strictly. -/
def strictPlainValue (text : String) : Value :=
  let chars := text.toList
  let narrow (value : Option Int) : Option Value :=
    (value.filter (fitsSigned 64)).map fun value => .number (.integer value)
  let based : Option Value :=
    match chars with
    | '0' :: 'x' :: digits => narrow (readInteger? 16 digits)
    | '0' :: 'o' :: digits => narrow (readInteger? 8 digits)
    | '+' :: digits => narrow (readInteger? 10 digits)
    | _ => none
  let float : Value :=
    if isInfinityOrNaN text then .number (.double (.zero false))
    else
      match (Binary.ofLiteral? chars : Option Binary64) with
      | some value => if value.isFinite then .number (.double value) else .null
      | none => .text text
  match based with
  | some value => value
  | none =>
    if text = "" ∨ text = "~" ∨ text = "null" then .null
    else if text = "true" then .boolean true
    else if text = "false" then .boolean false
    else (narrow (readInteger? 10 chars)).getD float

/-- What a plain scalar with a standard tag means strictly; what does not fit the tag is nothing. -/
def strictTaggedValue (suffix text : String) : Value :=
  match suffix with
  | "bool" =>
    if text = "true" then .boolean true else if text = "false" then .boolean false else .null
  | "int" =>
    match readInteger? 10 text.toList with
    | some value =>
      if fitsSigned 64 value then .number (.integer value) else .null
    | none => .null
  | "float" =>
    if isInfinityOrNaN text then .number (.double (.zero false))
    else
      match (Binary.ofLiteral? text.toList : Option Binary64) with
      | some value => if value.isFinite then .number (.double value) else .null
      | none => .null
  | "null" => .null
  | _ => .text text

namespace Node

mutual

/-- The value of a node strictly. Members whose key is no text are left out. -/
def strictValue? : Node → Option Value
  | scalar text .plain none => some (strictPlainValue text)
  | scalar text .plain (some tag) =>
    some (if tag.stem = standardStem then strictTaggedValue tag.suffix text else .text text)
  | scalar text _ _ => some (.text text)
  | list items _ => do return .list (← strictItems? items)
  | record members _ => do
    let members ← strictMembers? members
    let textual (member : Value × Value) : Option (String × Value) :=
      match member with
      | (.text key, value) => some (key, value)
      | _ => none
    return .record (members.filterMap textual)
  | unfinished => some .null

/-- The values of items. -/
def strictItems? : List Node → Option (List Value)
  | [] => some []
  | item :: rest => do return (← strictValue? item) :: (← strictItems? rest)

/-- The members of a record, which differ in their keys. -/
def strictMembers? : List (Node × Node) → Option (List (Value × Value))
  | [] => some []
  | (key, value) :: rest => do
    let key ← strictValue? key
    let value ← strictValue? value
    let members ← strictMembers? rest
    if members.any fun member => member.1 == key then none else return (key, value) :: members

end

/-- The text of a scalar however it is written. -/
def text? : Node → Option String
  | scalar text _ _ => some text
  | _ => none

/-- Nothing at all where something might be. -/
def isEmpty : Node → Bool
  | scalar "" .plain _ => true
  | _ => false

/-- The truth value of a plain scalar, or of a literal one that is tagged so. -/
def truth? : Node → Option Bool
  | scalar text .plain _ => boolean? text
  | scalar text .literal (some tag) =>
    if tag.stem ++ tag.suffix = standardStem ++ "bool" then boolean? text else none
  | _ => none

/-- The items of a list; nothing is a list without items. -/
def items? : Node → Option (List Node)
  | list items _ => some items
  | node => if node.isEmpty then some [] else none

/-- Members under texts. -/
def textMembers? : List (Node × Node) → Option (List (String × Node))
  | [] => some []
  | (key, value) :: rest => do return (← key.text?, value) :: (← textMembers? rest)

/-- The members of a record under texts; nothing is a record without members. -/
def members? : Node → Option (List (String × Node))
  | record members _ => textMembers? members
  | node => if node.isEmpty then some [] else none

/-- The known fields of a structure, each at most once, from a record or from a list of them in
order. -/
def fields? (known : List String) : Node → Option (List (String × Node))
  | list items _ => if items.length ≤ known.length then some (known.zip items) else none
  | node => do
    let members ← node.members?
    let fields := members.filter fun member => known.contains member.1
    let names := fields.map Prod.fst
    if names.eraseDups.length = names.length then some fields else none

/-- The node, unless it stands for nothing. The outer `none` means that it is refused. -/
def present? : Node → Option (Option Node)
  | scalar text .plain none => some (if text.isEmpty || isNothing text then none else
      some (scalar text .plain none))
  | scalar text .plain (some tag) =>
    if tag.stem ++ tag.suffix = standardStem ++ "null" then
      if isNothing text then some none else none
    else some (some (scalar text .plain (some tag)))
  | node => some (some node)

/-- The value of a scalar leniently. -/
def scalarValue? (text : String) (style : ScalarStyle) (tag : Option Tag) : Option Value :=
  match tag.map fun tag => tag.stem ++ tag.suffix with
  | none => if style = .plain then plainValue? text else some (.text text)
  | some full =>
    if full = "!" then if style = .plain then plainValue? text else some (.text text)
    else if full.startsWith "!" then none
    else if full = standardStem ++ "bool" then (boolean? text).map .boolean
    else if full = standardStem ++ "null" then if isNothing text then some .null else none
    else if full = standardStem ++ "int" then
      (integer? text.toList).bind fun value =>
        if Width.of value = .narrow then some (.number (.integer value)) else none
    else if full = standardStem ++ "float" then
      if isInfinityOrNaN text then some .null
      else (float? text.toList).map fun value => .number (.double value)
    else some (.text text)

/-- Lists and records with a tag of their own are refused. -/
def isPrivate (tag : Option Tag) : Bool :=
  tag.any fun tag => (tag.stem ++ tag.suffix).startsWith "!"

mutual

/-- The value of a node leniently, at most so many levels deep. -/
def value? (depth : Nat) : Node → Option Value
  | scalar text style tag => scalarValue? text style tag
  | list items tag =>
    if depth = 0 || isPrivate tag then none
    else do return .list (← itemValues? (depth - 1) items)
  | record members tag =>
    if depth = 0 || isPrivate tag then none
    else do return .record (← memberValues? (depth - 1) members)
  | unfinished => none

/-- The values of items. -/
def itemValues? (depth : Nat) : List Node → Option (List Value)
  | [] => some []
  | item :: rest => do return (← value? depth item) :: (← itemValues? depth rest)

/-- The values of members under texts. -/
def memberValues? (depth : Nat) : List (Node × Node) → Option (List (String × Value))
  | [] => some []
  | (key, value) :: rest => do
    return (← key.text?, ← value? depth value) :: (← memberValues? depth rest)

end

end Node

end Ensemble.Yaml
