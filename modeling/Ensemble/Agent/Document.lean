/-
# Agent documents

An agent is described by a document of two parts: front matter between two lines of three
dashes, which says what the profile holds, and below it the instructions. Comment lines of the
front matter are dropped before it is read; front matter that cannot be read is nothing.
-/

import Ensemble.Agent.Profile
import Ensemble.Text.Blank
import Ensemble.Text.Lines
import Ensemble.Yaml.Content

namespace Ensemble

/-- The two parts of a document; `matter` is absent when there is none but blanks. -/
structure AgentDocument where
  matter : Option String
  body : String
deriving DecidableEq, Repr

/-- Why a document describes no agent. -/
inductive ProfileFault where
  | noFrontMatter
  | unfit (mismatch : Mismatch)
  | blankName
deriving Repr

namespace AgentDocument

/-- A line that opens or closes the front matter. -/
def isDelimiter (line : List Char) : Bool :=
  Text.trimEndChars line == ['-', '-', '-']

/-- Drop the lines that start with a number sign and go on behind it, with the blanks in front of
them. The flag says that a line starts here. -/
def dropComments : Nat → Bool → List Char → List Char
  | 0, _, chars => chars
  | _ + 1, _, [] => []
  | fuel + 1, startsLine, c :: rest =>
    let behind := if startsLine then (c :: rest).dropWhile Text.isBlank else []
    match behind with
    | '#' :: next :: more =>
      if next = '\n' then c :: dropComments fuel (c = '\n') rest
      else dropComments fuel false (more.dropWhile (· != '\n'))
    | _ => c :: dropComments fuel (c = '\n') rest

/-- Lines behind one another, each behind a newline. -/
def joinLines (lines : List (List Char)) : List Char :=
  lines.flatMap fun line => '\n' :: line

/-- The parts of a text whose first line opens front matter that a later line closes. -/
def split? (text : String) : Option AgentDocument :=
  let first := text.toList.takeWhile (· != '\n')
  let lines := Text.lineChars ((text.toList.dropWhile (· != '\n')).drop 1)
  if isDelimiter first && text.toList.contains '\n' && lines.any isDelimiter then
    let inside := joinLines (lines.takeWhile fun line => !isDelimiter line)
    let below := joinLines ((lines.dropWhile fun line => !isDelimiter line).drop 1)
    let matter := Text.trimChars (dropComments (inside.length + 1) true inside)
    some ⟨if matter.isEmpty then none else some (String.ofList matter),
      Text.trim (String.ofList below)⟩
  else none

/-- What front matter holds: its first document, or nothing when it cannot be read. -/
def matterValue (matter : String) : Value :=
  let values : Option (List Value) := do
    let documents ← Yaml.documents? .strict matter.toList
    documents.mapM Yaml.Node.strictValue?
  ((values.bind List.head?).getD .null).normalize

end AgentDocument

/-- The agent that a document describes. Its name is what remains without the blanks around it. -/
def AgentProfile.ofDocument (text : String) : Except ProfileFault AgentProfile :=
  match AgentDocument.split? text with
  | some ⟨some matter, body⟩ =>
    match AgentProfile.decode (AgentDocument.matterValue matter) with
    | .error mismatch => .error (.unfit mismatch)
    | .ok profile =>
      let name := Text.trim profile.name
      if name.isEmpty then .error .blankName
      else .ok { profile with name, instructions := body }
  | _ => .error .noFrontMatter

end Ensemble
