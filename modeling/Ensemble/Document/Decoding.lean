/-
# Decoding values

How values are read as the types of the domain, and what is reported when they do not fit. A
structure is read from a record, whose other members are ignored, or from a list of its fields
in order. Of several faults in one record the one under the least key is reported, and missing
fields only when every present one fits.
-/

import Ensemble.Document.Datum
import Ensemble.Json.Writer
import Ensemble.Text.Quoted

namespace Ensemble

/-- Why a value cannot be read. -/
inductive Mismatch where
  /-- A value of the wrong kind. -/
  | kind (found : Value) (expected : String)
  /-- A value of the right kind that is not allowed. -/
  | value (found : Value) (expected : String)
  /-- A list with too few or too many items. -/
  | length (count : Nat) (expected : String)
  | unknownVariant (name : String) (known : List String)
  | missingField (name : String)
  /-- A text that does not have its form. -/
  | malformed (what : String)
deriving Repr

namespace Value

/-- A value in a message: simple ones are shown, lists and records only named. -/
def describe : Value → String
  | null => "null"
  | boolean value => if value then "boolean `true`" else "boolean `false`"
  | number (.integer value) => "integer `" ++ toString value ++ "`"
  | number value => "floating point `" ++ Json.numberText value ++ "`"
  | text value => "string " ++ Text.quoted value
  | list _ => "sequence"
  | record _ => "map"

end Value

namespace Mismatch

/-- Names in backquotes, as alternatives. -/
def alternatives (names : List String) : String :=
  let quoted := names.map fun name => "`" ++ name ++ "`"
  match quoted with
  | [] => "there are no variants"
  | [only] => "expected " ++ only
  | [first, second] => "expected " ++ first ++ " or " ++ second
  | many => "expected one of " ++ ", ".intercalate many

/-- The sentence for a mismatch. -/
def message : Mismatch → String
  | kind found expected => "invalid type: " ++ found.describe ++ ", expected " ++ expected
  | value found expected => "invalid value: " ++ found.describe ++ ", expected " ++ expected
  | length count expected => "invalid length " ++ toString count ++ ", expected " ++ expected
  | unknownVariant name known => "unknown variant `" ++ name ++ "`, " ++ alternatives known
  | missingField name => "missing field `" ++ name ++ "`"
  | malformed what => "malformed " ++ what

end Mismatch

/-- The result of reading a value. -/
abbrev Decoded (α : Type) := Except Mismatch α

/-- Where a value is read from. Values that are looked at twice, because a tag decides how the
rest is read, are set aside in between, and are then read a little more freely. Tables of
settings have no word for nothing, and more items than fields do no harm there. -/
inductive Origin where
  | direct
  | setAside
  | table
deriving DecidableEq, Repr

/-- A number of elements in words. -/
def elementCount (count : Nat) : String :=
  if count = 1 then "1 element" else toString count ++ " elements"

namespace Value

/-- A text. -/
def decodeText : Value → Decoded String
  | text value => .ok value
  | found => .error (.kind found "a string")

/-- A truth value. -/
def decodeBoolean : Value → Decoded Bool
  | boolean value => .ok value
  | found => .error (.kind found "a boolean")

/-- A whole number below a bound. -/
def decodeWhole (bound : Nat) (expected : String) : Value → Decoded Nat
  | number (.integer value) =>
    if 0 ≤ value ∧ value < bound then .ok value.toNat
    else .error (.value (number (.integer value)) expected)
  | found => .error (.kind found expected)

/-- A number in single precision. -/
def decodeSingle : Value → Decoded Binary32
  | number (.integer value) => .ok (Binary.ofInt value)
  | number (.double value) => .ok (value.convert .single)
  | number (.single value) => .ok value
  | found => .error (.kind found "f32")

/-- Read every item. -/
def decodeItems {α : Type} (decode : Value → Decoded α) : List Value → Decoded (List α)
  | [] => .ok []
  | item :: rest => do
    let value ← decode item
    let values ← decodeItems decode rest
    return value :: values

/-- A list of one kind of items. -/
def decodeList {α : Type} (decode : Value → Decoded α) : Value → Decoded (List α)
  | list items => decodeItems decode items
  | found => .error (.kind found "a sequence")

/-- A value that may be null. -/
def decodeOptional {α : Type} (decode : Value → Decoded α) : Value → Decoded (Option α)
  | null => .ok none
  | found => (decode found).map some

/-- Read the value of every member. -/
def decodeMembers {α : Type} (decode : Value → Decoded α) :
    List (String × Value) → Decoded (List (String × α))
  | [] => .ok []
  | (key, found) :: rest => do
    let value ← decode found
    let members ← decodeMembers decode rest
    return (key, value) :: members

/-- A record with values of one kind under any keys. -/
def decodeDictionary {α : Type} (decode : Value → Decoded α) : Value → Decoded (Dictionary α)
  | record members => (decodeMembers decode members).map Dictionary.ofList
  | found => .error (.kind found "a map")

/-- Any value. -/
def decodeDatum (found : Value) : Decoded Datum :=
  .ok (Datum.ofValue found)

/-- The variant with a name. -/
def variantNamed {α : Type} (variants : List (String × α)) (name : String) : Decoded α :=
  match variants.find? fun variant => variant.1 == name with
  | some variant => .ok variant.2
  | none => .error (.unknownVariant name (variants.map Prod.fst))

/-- Whether a value says that a variant has no content. -/
def isNoContent (origin : Origin) : Value → Bool
  | null => true
  | record [] => decide (origin ≠ .direct)
  | list [] => decide (origin = .table)
  | _ => false

/-- One of some names, alone or as the only key of a record without content. -/
def decodeVariant {α : Type} (variants : List (String × α)) (origin : Origin) :
    Value → Decoded α
  | text name => variantNamed variants name
  | record [(name, content)] => do
    let variant ← variantNamed variants name
    if content.isNoContent origin then return variant
    else throw (.kind content "unit")
  | record members => .error (.value (record members) "map with a single key")
  | found => .error (.kind found "string or map")

/-- The name of a variant that decides how the rest is read. Set aside, it may be its number. -/
def decodeTag {α : Type} (variants : List (String × α)) (origin : Origin) :
    Value → Decoded α
  | text name => variantNamed variants name
  | number (.integer index) =>
    if origin = .setAside ∧ 0 ≤ index then
      match variants[index.toNat]? with
      | some variant => .ok variant.2
      | none =>
        .error (.value (number (.integer index))
          ("variant index 0 <= i < " ++ toString variants.length))
    else .error (.kind (number (.integer index)) "variant identifier")
  | found => .error (.kind found "variant identifier")

end Value

/-- What a structure is read from. -/
inductive Members where
  | keyed (members : List (String × Value))
  | placed (items : List Value)
deriving Repr

/-- The fields behind the first `count` ones. -/
def Members.drop (count : Nat) : Members → Members
  | keyed members => keyed members
  | placed items => placed (items.drop count)

/-- What is wrong with one field. -/
inductive FieldFault where
  | unfit (name : String) (mismatch : Mismatch)
  | missing (name : String)
deriving Repr

/-- The fields of a structure: either all that they say or everything that is wrong. -/
inductive Reading (α : Type) where
  | complete (value : α)
  | faulty (faults : List FieldFault)

/-- Reading one group of fields and another. -/
def Reading.both {α β : Type} (build : Reading (α → β)) (argument : Reading α) : Reading β :=
  match build, argument with
  | complete f, complete value => complete (f value)
  | complete _, faulty faults => faulty faults
  | faulty faults, complete _ => faulty faults
  | faulty faults, faulty more => faulty (faults ++ more)

/-- A group of fields of a structure: how many they are and how they are read. -/
structure Fields (α : Type) where
  count : Nat
  read : Members → Reading α

namespace Fields

/-- No field. -/
def none {α : Type} (value : α) : Fields α :=
  ⟨0, fun _ => .complete value⟩

/-- One group of fields and then another. -/
def both {α β : Type} (build : Fields (α → β)) (argument : Fields α) : Fields β :=
  ⟨build.count + argument.count, fun members =>
    (build.read members).both (argument.read (members.drop build.count))⟩

/-- The value of a field. -/
def fit {α : Type} (name : String) (decode : Value → Decoded α) (found : Value) : Reading α :=
  match decode found with
  | .ok value => .complete value
  | .error mismatch => .faulty [.unfit name mismatch]

/-- A field that may be missing when `absent` has a value. -/
def field {α : Type} (name : String) (decode : Value → Decoded α) (absent : Reading α) : Fields α :=
  ⟨1, fun members =>
    match members with
    | .keyed members =>
      match Value.member? members name with
      | some found => fit name decode found
      | Option.none => absent
    | .placed (found :: _) => fit name decode found
    | .placed [] => absent⟩

/-- A field that may not be missing. -/
def required {α : Type} (name : String) (decode : Value → Decoded α) : Fields α :=
  field name decode (.faulty [.missing name])

/-- A field with a value for when it is missing. -/
def optional {α : Type} (name : String) (decode : Value → Decoded α) (absent : α) : Fields α :=
  field name decode (.complete absent)

/-- The fault to report of a record: of the fields that do not fit the one with the least name. -/
def worstKeyed : List FieldFault → Mismatch
  | [] => .malformed "structure"
  | [.unfit _ mismatch] => mismatch
  | [.missing name] => .missingField name
  | .missing name :: rest =>
    if rest.any fun fault => fault matches .unfit _ _ then worstKeyed rest else .missingField name
  | .unfit name mismatch :: rest =>
    if rest.any fun fault => match fault with
      | .unfit other _ => decide (other < name)
      | .missing _ => false
    then worstKeyed rest else mismatch

/-- The fault to report of a list: the first. -/
def worstPlaced (count : Nat) (expected : String) : List FieldFault → Mismatch
  | .unfit _ mismatch :: _ => mismatch
  | _ => .length count expected

/-- Too many items for a structure of so many fields. -/
def surplus (origin : Origin) (given expected : Nat) : Mismatch :=
  if origin = .setAside then .length given (elementCount expected ++ " in sequence")
  else .length given "fewer elements in array"

/-- Read a structure, named for messages, from its members or items. -/
def decode {α : Type} (fields : Fields α) (name : String) (origin : Origin) :
    Value → Decoded α
  | .record members =>
    match fields.read (.keyed members) with
    | .complete value => .ok value
    | .faulty faults => .error (worstKeyed faults)
  | .list items =>
    match fields.read (.placed items) with
    | .complete value =>
      if fields.count < items.length ∧ origin ≠ .table then
        .error (surplus origin items.length fields.count)
      else .ok value
    | .faulty faults =>
      .error (worstPlaced items.length (name ++ " with " ++ elementCount fields.count) faults)
  | found => .error (.kind found name)

end Fields

end Ensemble
