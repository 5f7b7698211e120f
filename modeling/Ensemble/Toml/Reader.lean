/-
# Reading TOML documents

A document is a list of lines: headers of tables, keys with their values, comments. Lists may go
over several lines, tables inside braces may not. Lists and such tables may be nested 79 deep.
-/

import Ensemble.Toml.Number
import Ensemble.Toml.Table
import Ensemble.Toml.Text

namespace Ensemble.Toml

/-- Lists and tables inside braces may be nested this deep. -/
def deepest : Nat := 79

/-- A word at the front. -/
def readWord? (word : List Char) (value : Value) (chars : List Char) : Option (Value × List Char) :=
  if word.isPrefixOf chars then some (value, chars.drop word.length) else none

mutual

/-- Read a value. -/
def readValue? : Nat → Nat → List Char → Option (Value × List Char)
  | 0, _, _ => none
  | fuel + 1, depth, chars =>
    match chars with
    | '[' :: rest =>
      if depth = 0 then none
      else do
        let (items, beyond) ← readItems? fuel (depth - 1) (skipLines rest.length rest)
        return (.list items, beyond)
    | '\x7b' :: rest =>
      if depth = 0 then none
      else do
        let (members, beyond) ←
          match skipGaps rest with
          | '\x7d' :: beyond => some ([], beyond)
          | inside => readMembers? fuel (depth - 1) inside []
        return (.record (membersToValues members), beyond)
    | 't' :: _ => readWord? ['t', 'r', 'u', 'e'] (.boolean true) chars
    | 'f' :: _ => readWord? ['f', 'a', 'l', 's', 'e'] (.boolean false) chars
    | 'i' :: _ => readSpecialFloat? chars
    | 'n' :: _ => readSpecialFloat? chars
    | c :: _ =>
      if c = '"' ∨ c = '\'' then do
        let (text, beyond) ← readText? chars
        return (.text text, beyond)
      else readNumber? chars
    | [] => none

/-- Read the items of a list from the first one on, or from the closing bracket. -/
def readItems? : Nat → Nat → List Char → Option (List Value × List Char)
  | 0, _, _ => none
  | fuel + 1, depth, chars =>
    match chars with
    | ']' :: rest => some ([], rest)
    | _ => do
      let (item, rest) ← readValue? fuel depth chars
      match skipLines rest.length rest with
      | ',' :: more =>
        let (items, beyond) ← readItems? fuel depth (skipLines more.length more)
        return (item :: items, beyond)
      | ']' :: beyond => return ([item], beyond)
      | _ => none

/-- Read the members of a table inside braces, onto those read before. -/
def readMembers? : Nat → Nat → List Char → Members → Option (Members × List Char)
  | 0, _, _, _ => none
  | fuel + 1, depth, chars, members => do
    let (path, rest) ← readKey? chars
    let key ← path.getLast?
    let (value, rest) ← readValue? fuel depth (skipGaps (← skipChar? '=' rest))
    let members ← members.assign path.dropLast key value .header
    match skipGaps rest with
    | ',' :: more => readMembers? fuel depth more members
    | '\x7d' :: beyond => return (members, beyond)
    | _ => none

end

/-- What was read of a document: its tables, and the header that the next keys belong to. -/
structure Draft where
  members : Members
  header : List String

/-- A value under a key below the current header. -/
def Draft.assign (draft : Draft) (path : List String) (key : String) (value : Value) :
    Option Draft := do
  let members ← Members.edit false (fun kind inner => inner.assign path key value kind)
    draft.header .header draft.members
  return { draft with members }

/-- Read one line: what becomes of the draft, and the lines below. -/
def readLine? (draft : Draft) (chars : List Char) : Option (Draft × List Char) :=
  match skipGaps chars with
  | [] => some (draft, [])
  | '[' :: '[' :: rest => do
    let (path, rest) ← readKey? rest
    let members ← draft.members.openElement path.dropLast (← path.getLast?)
    return (⟨members, path⟩, ← endLine? (← skipChar? ']' (← skipChar? ']' rest)))
  | '[' :: rest => do
    let (path, rest) ← readKey? rest
    let members ← draft.members.openTable path.dropLast (← path.getLast?)
    return (⟨members, path⟩, ← endLine? (← skipChar? ']' rest))
  | c :: rest =>
    if c = '#' ∨ c = '\n' ∨ c = '\r' then do return (draft, ← endLine? (c :: rest))
    else do
      let (path, rest) ← readKey? (c :: rest)
      let value := skipGaps (← skipChar? '=' rest)
      let (value, rest) ← readValue? (2 * value.length + 2) deepest value
      return (← draft.assign path.dropLast (← path.getLast?) value, ← endLine? rest)

/-- Read the lines of a document. -/
def readDocument? : Nat → Draft → List Char → Option Draft
  | 0, draft, chars => if chars.isEmpty then some draft else none
  | fuel + 1, draft, chars => do
    let (draft, rest) ← readLine? draft chars
    if rest.isEmpty then return draft else readDocument? fuel draft rest

/-- The record that a document describes, or `none` when it is malformed. -/
def read? (text : String) : Option Value := do
  let chars := text.toList
  let source := if chars.head? = some '\uFEFF' then chars.drop 1 else chars
  let draft ← readDocument? (source.length + 1) ⟨[], []⟩ source
  return .record (membersToValues draft.members)

end Ensemble.Toml
