/-
# File outcomes

Reading and writing texts around the runs of agents. What the file system refuses is part of the
outcome; only a blank path is refused up front.
-/

import Ensemble.File.Tree
import Ensemble.Text.Blank

namespace Ensemble

/-- A path of blanks only. -/
inductive PathError where
  | blank
deriving DecidableEq, Repr

/-- The sentence for a path that is refused. -/
def PathError.message : PathError → String
  | blank => "file path must not be blank"

/-- What came of writing a file. -/
structure WriteOutcome where
  path : String
  mode : WriteMode
  /-- How many bytes were written, or why none were. -/
  result : Except FileError Nat

/-- What came of reading a file. -/
structure ReadOutcome where
  path : String
  /-- The text, or what is wrong with the path or the file. -/
  result : Except String String

/-- What stands under a path. -/
structure FileInfo where
  path : String
  entry : Option FileEntry

namespace WriteOutcome

/-- How many bytes were written. -/
def bytesWritten (outcome : WriteOutcome) : Nat :=
  outcome.result.toOption.getD 0

/-- Why nothing was written. -/
def error? (outcome : WriteOutcome) : Option String :=
  match outcome.result with
  | .ok _ => none
  | .error error => some error.message

end WriteOutcome

namespace ReadOutcome

/-- The text that was read. -/
def content (outcome : ReadOutcome) : String :=
  outcome.result.toOption.getD ""

/-- How many lines were read. -/
def lineCount (outcome : ReadOutcome) : Nat :=
  (Text.lines outcome.content).length

end ReadOutcome

/-- The size of a file; directories have none. -/
def FileInfo.size (info : FileInfo) : Nat :=
  match info.entry with
  | some (.file content) => content.size
  | _ => 0

namespace FileTree

/-- Refuse a path of blanks only. -/
def requirePath (path : String) : Except PathError Unit :=
  if Text.isBlankText path then .error .blank else .ok ()

/-- Write a file, on request after making the directories that lead to it. -/
def writeInto (tree : FileTree) (path : String) (mode : WriteMode) (createsDirectories : Bool)
    (content : ByteArray) : FileTree × Option FileError :=
  match if createsDirectories then tree.ensureParent path else (tree, none) with
  | (tree, some error) => (tree, some error)
  | (tree, none) =>
    match tree.write path mode content with
    | .ok written => (written, none)
    | .error error => (tree, some error)

/-- Write a text to a file. -/
def writeText (tree : FileTree) (path text : String) (mode : WriteMode)
    (createsDirectories : Bool) : Except PathError (WriteOutcome × FileTree) := do
  requirePath path
  let content := text.toUTF8
  match tree.writeInto path mode createsDirectories content with
  | (after, none) => return (⟨path, mode, .ok content.size⟩, after)
  | (after, some error) => return (⟨path, mode, .error error⟩, after)

/-- Write lines to a file, each with a newline behind it. -/
def writeLines (tree : FileTree) (path : String) (lines : List String) (mode : WriteMode)
    (createsDirectories : Bool) : Except PathError (WriteOutcome × FileTree) :=
  tree.writeText path (String.join (lines.map (· ++ "\n"))) mode createsDirectories

/-- Write a text behind the content of a file. -/
def appendText (tree : FileTree) (path text : String) :
    Except PathError (WriteOutcome × FileTree) :=
  tree.writeText path text .append false

/-- What stands under a path. -/
def info (tree : FileTree) (path : String) : Except PathError FileInfo := do
  requirePath path
  return ⟨path, tree.entry? path⟩

/-- The text of a file, or what is in the way. -/
def fileText (tree : FileTree) (path : String) : Except String String :=
  if !tree.contains path then .error ("File not found: " ++ path)
  else if !tree.isFile path then .error ("Path is not a file: " ++ path)
  else
    match tree.readText path with
    | .ok text => .ok text
    | .error error => .error error.message

/-- The first lines of a text, each with its newline. -/
def firstLines (limit : Option Nat) (text : String) : String :=
  match limit with
  | some count => String.ofList ((Text.inclusiveLines text.toList).take count).flatten
  | none => text

/-- Read the text of a file, on request only its first lines. -/
def read (tree : FileTree) (path : String) (limit : Option Nat) :
    Except PathError ReadOutcome := do
  requirePath path
  return ⟨path, (tree.fileText path).map (firstLines limit)⟩

/-- Read the lines of a file. -/
def readLines (tree : FileTree) (path : String) :
    Except PathError (Except String (List String)) := do
  requirePath path
  return (tree.fileText path).map Text.lines

end FileTree

end Ensemble
