/-
# Subtasks

An agent that is asked to decompose a task answers with a JSON array of subtasks, perhaps inside
a code fence. What is missing is filled in. An answer that is no such array becomes one subtask
that shows the beginning of the answer and says what is wrong with it.
-/

import Ensemble.Context
import Ensemble.Json.Reader
import Ensemble.Text.Blank

namespace Ensemble

/-- One unit of work. -/
structure Subtask where
  description : String
  resources : String
  expectedOutcome : String
  /-- What is wrong with the answer, if it was not an array. -/
  parsingError : Option String
deriving DecidableEq, Repr

namespace Subtask

/-- A subtask as a record. -/
def encode (subtask : Subtask) : Value :=
  .record ([("description", .text subtask.description), ("resources", .text subtask.resources),
      ("expected_outcome", .text subtask.expectedOutcome)] ++
    Value.optionalMember "parsing_error" Value.text subtask.parsingError)

/-- The fields of a subtask. -/
def fields : Fields Subtask :=
  (Fields.none Subtask.mk)
    |>.both (.required "description" Value.decodeText)
    |>.both (.required "resources" Value.decodeText)
    |>.both (.required "expected_outcome" Value.decodeText)
    |>.both (.optional "parsing_error" (Value.decodeOptional Value.decodeText) none)

/-- Read a subtask. -/
def decode : Value → Decoded Subtask :=
  fields.decode "struct Subtask" .direct

/-- The mark of a code fence. -/
def fence : List Char := ['`', '`', '`']

/-- The characters behind an opening fence, with or without the name of the language. -/
def withoutOpening (chars : List Char) : List Char :=
  let opening := fence ++ ['j', 's', 'o', 'n']
  if opening.isPrefixOf chars then chars.drop opening.length
  else if fence.isPrefixOf chars then chars.drop fence.length
  else chars

/-- The characters before a closing fence. -/
def withoutClosing (chars : List Char) : List Char :=
  if fence.isSuffixOf chars then chars.take (chars.length - fence.length) else chars

/-- An answer without blanks and a code fence around it. -/
def bodyOf (answer : List Char) : List Char :=
  Text.trimChars (withoutClosing (withoutOpening (Text.trimChars answer)))

/-- What stands for a field that is missing. -/
def notSpecified : String := "Not specified"

/-- The text of a member: texts are taken as they are, other values as JSON. -/
def memberText? (members : List (String × Value)) (key : String) : Option String :=
  match Value.member? members key with
  | some (.text value) => some value
  | some .null => none
  | some value => some (Json.compact value)
  | none => none

/-- The subtask that an item at a position describes. -/
def ofItem (index : Nat) : Value → Subtask
  | .record members =>
    ⟨(memberText? members "description").getD ("Subtask " ++ toString (index + 1)),
      (memberText? members "resources").getD notSpecified,
      (memberText? members "expected_outcome").getD notSpecified, none⟩
  | .text description => ⟨description, notSpecified, notSpecified, none⟩
  | value => ⟨Json.compact value, notSpecified, notSpecified, none⟩

/-- The subtasks that items from a position on describe. -/
def ofItems : Nat → List Value → List Subtask
  | _, [] => []
  | index, item :: rest => ofItem index item :: ofItems (index + 1) rest

/-- How many characters of an answer are shown. -/
def excerptLength : Nat := 200

/-- The beginning of an answer. -/
def excerpt (answer : String) : String :=
  if excerptLength < answer.length then
    String.ofList (answer.toList.take excerptLength) ++ "..."
  else answer

/-- The subtask for an answer that is no array. -/
def fallback (answer task problem : String) : Subtask :=
  ⟨"Task: " ++ task, "See model response", excerpt answer, some problem⟩

/-- The items of an answer, or what is wrong with it. -/
def itemsOf (answer : String) : Except String (List Value) :=
  let body := String.ofList (bodyOf answer.toList)
  match Json.read body with
  | .ok (.list items) => .ok items
  | .ok _ => .error "response is not a JSON array"
  | .error fault => .error ("failed to parse response as JSON: " ++ fault.message body)

/-- The subtasks of an answer, at most `limit` of them. -/
def ofAnswer (answer task : String) (limit : Nat) : List Subtask :=
  match itemsOf answer with
  | .ok items => ofItems 0 (items.take limit)
  | .error problem => [fallback answer task problem]

end Subtask

end Ensemble
