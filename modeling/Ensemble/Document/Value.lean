/-
# Document values

What a document holds, whatever its notation: nothing, truth values, numbers, texts, lists and
records. A record as written keeps its members in the order and number of the document;
`normalize` sorts the members of every record by key and keeps the last of several with one
key.
-/

import Ensemble.Dictionary
import Ensemble.Number.Binary

namespace Ensemble

/-- A number keeps its kind: a whole number, or a float of one of two widths. -/
inductive Number where
  | integer (value : Int)
  | double (value : Binary64)
  | single (value : Binary32)
deriving DecidableEq, Repr

/-- A value of a document. -/
inductive Value where
  | null
  | boolean (value : Bool)
  | number (value : Number)
  | text (value : String)
  | list (items : List Value)
  | record (members : List (String × Value))
deriving Repr, Inhabited, BEq

namespace Value

mutual

/-- The value with the members of its records, at every depth, in ascending order of their keys
and without repetition; the last member with a key counts. -/
def normalize : Value → Value
  | list items => list (normalizeItems items)
  | record members => record (Dictionary.ofList (normalizeMembers members)).entries
  | null => null
  | boolean value => boolean value
  | number value => number value
  | text value => text value

/-- Every item normalized. -/
def normalizeItems : List Value → List Value
  | [] => []
  | item :: rest => normalize item :: normalizeItems rest

/-- Every member's value normalized. -/
def normalizeMembers : List (String × Value) → List (String × Value)
  | [] => []
  | (key, value) :: rest => (key, normalize value) :: normalizeMembers rest

end

/-- The last member of a record with a key. -/
def member? (members : List (String × Value)) (key : String) : Option Value :=
  (members.reverse.find? fun entry => entry.1 == key).map Prod.snd

/-- A member for a value that may be absent. -/
def optionalMember {α : Type} (key : String) (encode : α → Value) : Option α →
    List (String × Value)
  | some value => [(key, encode value)]
  | none => []

end Value

end Ensemble
