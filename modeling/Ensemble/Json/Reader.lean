/-
# Reading JSON

The words of a text are assembled one after another. The state of the assembly is the stack of
open lists and records and what is expected next, so that every word is either expected or
reported at its place. Lists and records may be nested 127 deep.
-/

import Ensemble.Json.Token

namespace Ensemble.Json

/-- An open list or record: what it holds so far, the last first. -/
inductive Frame where
  | list (items : List Value)
  | record (members : List (String × Value))
  | member (members : List (String × Value)) (key : String)
deriving Repr

/-- What may come next. -/
inductive Expectation where
  /-- Any value. -/
  | value
  /-- The first item of the open list, or its end. -/
  | firstItem
  /-- The first key of the open record, or its end. -/
  | firstKey
  /-- A further key of the open record. -/
  | furtherKey
  | colon
  /-- A comma or the end of the open list or record. -/
  | separator
  /-- Nothing: the text is complete. -/
  | nothing (result : Value)
deriving Repr

/-- The assembly after some words. -/
structure Assembly where
  frames : List Frame
  expects : Expectation
deriving Repr

/-- Nothing is read yet. -/
def Assembly.start : Assembly := ⟨[], .value⟩

/-- A complete value goes into the innermost open list or record. -/
def Assembly.deliver (value : Value) : List Frame → Assembly
  | [] => ⟨[], .nothing value⟩
  | .list items :: frames => ⟨.list (value :: items) :: frames, .separator⟩
  | .member members key :: frames => ⟨.record ((key, value) :: members) :: frames, .separator⟩
  | .record members :: frames => ⟨.record members :: frames, .separator⟩

/-- Open a list or record, unless that is one too many. -/
def Assembly.open (frames : List Frame) (frame : Frame) (expects : Expectation)
    (place : List Char) : Except Fault Assembly :=
  if frames.length + 1 = 128 then .error (.within .tooDeep place)
  else .ok ⟨frame :: frames, expects⟩

/-- A word where a value is expected. -/
def Assembly.takeValue (frames : List Frame) (token : Token) (place : List Char) :
    Except Fault Assembly :=
  match token with
  | .scalar value => .ok (deliver value frames)
  | .text value => .ok (deliver (.text value) frames)
  | .openList => Assembly.open frames (.list []) .firstItem place
  | .openRecord => Assembly.open frames (.record []) .firstKey place
  | .fault _ fault => .error fault
  | _ => .error (.within .expectedValue place)

/-- A word where a key is expected. -/
def Assembly.takeKey (frames : List Frame) (token : Token) (place : List Char) :
    Except Fault Assembly :=
  match token, frames with
  | .text key, .record members :: rest => .ok ⟨.member members key :: rest, .colon⟩
  | .fault true fault, _ => .error fault
  | _, _ => .error (.within .expectedKey place)

/-- One more word. -/
def Assembly.take (assembly : Assembly) (word : Token × List Char) : Except Fault Assembly :=
  let token := word.1
  let place := word.2
  match assembly.expects, token, assembly.frames with
  | .nothing _, _, _ => .error (.within .trailingCharacters place)
  | .firstItem, .closeList, .list items :: frames => .ok (deliver (.list items.reverse) frames)
  | .firstKey, .closeRecord, .record members :: frames =>
    .ok (deliver (.record members.reverse) frames)
  | .separator, .closeList, .list items :: frames => .ok (deliver (.list items.reverse) frames)
  | .separator, .closeRecord, .record members :: frames =>
    .ok (deliver (.record members.reverse) frames)
  | .separator, .comma, .list items :: frames => .ok ⟨.list items :: frames, .value⟩
  | .separator, .comma, .record members :: frames => .ok ⟨.record members :: frames, .furtherKey⟩
  | .separator, _, .record _ :: _ => .error (.within .expectedRecordEnd place)
  | .separator, _, _ => .error (.within .expectedListEnd place)
  | .colon, .colon, frames => .ok ⟨frames, .value⟩
  | .colon, _, _ => .error (.within .expectedColon place)
  | .furtherKey, .closeRecord, _ => .error (.within .trailingComma place)
  | .furtherKey, token, frames => takeKey frames token place
  | .firstKey, token, frames => takeKey frames token place
  | .value, .closeList, .list _ :: _ => .error (.within .trailingComma place)
  | .value, token, frames => takeValue frames token place
  | .firstItem, token, frames => takeValue frames token place

/-- What a text lacks that ends here. -/
def Assembly.missing (assembly : Assembly) : Problem :=
  match assembly.expects, assembly.frames with
  | .value, _ => .endInValue
  | .furtherKey, _ => .endInValue
  | .firstItem, _ => .endInList
  | .separator, .list _ :: _ => .endInList
  | _, _ => .endInRecord

/-- The value of a complete text. -/
def Assembly.finish (assembly : Assembly) : Except Fault Value :=
  match assembly.expects with
  | .nothing value => .ok value
  | _ => .error (.before assembly.missing [])

/-- Read the value that a text writes, with the members of its records as written. -/
def readWritten (chars : List Char) : Except Fault Value := do
  let assembly ← (tokens chars).foldlM Assembly.take Assembly.start
  assembly.finish

/-- A text that is read is assembled to a complete value. -/
theorem assembled_of_readWritten {chars : List Char} {value : Value}
    (h : readWritten chars = .ok value) :
    ∃ assembly, (tokens chars).foldlM Assembly.take Assembly.start = .ok assembly ∧
      assembly.expects = .nothing value := by
  rw [readWritten] at h
  cases hall : (tokens chars).foldlM Assembly.take Assembly.start with
  | error fault =>
      rw [hall] at h
      cases h
  | ok assembly =>
      rw [hall] at h
      have hfinish : assembly.finish = .ok value := h
      rw [Assembly.finish] at hfinish
      split at hfinish
      next hexpects => exact ⟨assembly, rfl, Except.ok.inj hfinish ▸ hexpects⟩
      next => cases hfinish

/-- The line and the column of the place after some characters. Lines count from one; columns
count the bytes since the line started. -/
def positionAfter (chars : List Char) : Nat × Nat :=
  chars.foldl
    (fun position c =>
      if c = '\n' then (position.1 + 1, 0) else (position.1, position.2 + c.utf8Size)) (1, 0)

/-- The position so many bytes further on. -/
def advance (position : Nat × Nat) : Nat → List Char → Nat × Nat
  | 0, _ => position
  | _, [] => position
  | bytes + 1, c :: rest =>
    if c = '\n' then advance (position.1 + 1, 0) bytes rest
    else if bytes + 1 < c.utf8Size then (position.1, position.2 + (bytes + 1))
    else advance (position.1, position.2 + c.utf8Size) (bytes + 1 - c.utf8Size) rest

/-- The line and the column of a fault in a text. -/
def Fault.position (fault : Fault) (chars : List Char) : Nat × Nat :=
  advance (positionAfter (chars.take (chars.length - fault.rest.length))) fault.bytes fault.rest

/-- The sentence for a fault in a text, with its position. -/
def Fault.message (fault : Fault) (text : String) : String :=
  let position := fault.position text.toList
  s!"{fault.problem.message} at line {position.1} column {position.2}"

/-- Read the value that a text writes, with records in normal form. -/
def read (text : String) : Except Fault Value :=
  (readWritten text.toList).map Value.normalize

/-- What a text is read as is the normal form of what it writes. -/
theorem read_eq_ok_iff {text : String} {value : Value} :
    read text = .ok value ↔
      ∃ written, readWritten text.toList = .ok written ∧ written.normalize = value := by
  rw [read]
  cases readWritten text.toList <;> simp [Except.map]

end Ensemble.Json
