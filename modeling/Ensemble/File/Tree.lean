/-
# File trees

Files and directories under names, seen from a working directory. An entry is kept under the
names that lead to it, with slashes between them, so the entries of a tree ascend by their
paths. Operations follow a path name by name and fail with the first thing in their way; one that
fails leaves the tree as it is, apart from directories that were made on the way.
-/

import Ensemble.Dictionary
import Ensemble.File.Path

namespace Ensemble

/-- What stands in a tree under a path. -/
inductive FileEntry where
  | directory
  | file (content : ByteArray)
deriving BEq

/-- Why an operation on a tree fails. -/
inductive FileError where
  | notFound
  | exists
  | notDirectory
  | isDirectory
  | nameTooLong
  /-- The content is no UTF-8 text. -/
  | notText
  /-- A path with a null character. -/
  | nullCharacter
deriving DecidableEq, Repr

/-- The sentence for a failure. -/
def FileError.message : FileError → String
  | notFound => "No such file or directory (os error 2)"
  | .exists => "File exists (os error 17)"
  | notDirectory => "Not a directory (os error 20)"
  | isDirectory => "Is a directory (os error 21)"
  | nameTooLong => "File name too long (os error 36)"
  | notText => "stream did not contain valid UTF-8"
  | nullCharacter => "file name contained an unexpected NUL byte"

/-- Files and directories below a working directory. -/
structure FileTree where
  entries : Dictionary FileEntry

/-- What becomes of a file that exists already. -/
inductive WriteMode where
  /-- Its content is replaced. -/
  | overwrite
  /-- The new content goes behind the old. -/
  | append
  /-- It is an error. -/
  | createNew
deriving DecidableEq, Repr

/-- The place of a path: a name in a directory, or that directory itself. -/
structure Place where
  directory : List String
  name : Option String
  /-- A slash follows, so only a directory is meant. -/
  meansDirectory : Bool
deriving DecidableEq, Repr

namespace FileTree

/-- A tree without anything in its working directory. -/
def empty : FileTree := ⟨∅⟩

/-- The path under which an entry is kept. -/
def keyOf (location : List String) : String :=
  "/".intercalate location

/-- What stands at a location. -/
def entryAt (tree : FileTree) (location : List String) : Option FileEntry :=
  if location.isEmpty then some .directory else tree.entries.get? (keyOf location)

/-- Put an entry at a location. -/
def put (tree : FileTree) (location : List String) (entry : FileEntry) : FileTree :=
  ⟨tree.entries.insert (keyOf location) entry⟩

/-- The longest name. -/
def longestName : Nat := 255

/-- The longest path. -/
def longestPath : Nat := 4095

/-- Follow names from a directory, all to directories. -/
def enter (tree : FileTree) : List String → List String → Except FileError (List String)
  | here, [] => .ok here
  | here, name :: rest =>
    if name = "." then enter tree here rest
    else if name = ".." then enter tree here.dropLast rest
    else if longestName < name.utf8ByteSize then .error .nameTooLong
    else
      match tree.entryAt (here ++ [name]) with
      | some .directory => enter tree (here ++ [name]) rest
      | some (.file _) => .error .notDirectory
      | none => .error .notFound

/-- The place of a path. -/
def place (tree : FileTree) (path : String) : Except FileError Place := do
  if path.toList.contains '\x00' then throw .nullCharacter
  if longestPath < path.utf8ByteSize then throw .nameTooLong
  match (Path.names path).getLast? with
  | none => if path.isEmpty then throw .notFound else return ⟨[], none, true⟩
  | some last =>
    let directory ← tree.enter [] (Path.names path).dropLast
    if last = "." then return ⟨directory, none, true⟩
    else if last = ".." then return ⟨directory.dropLast, none, true⟩
    else return ⟨directory, some last, Path.endsWithSlash path⟩

/-- The entry of a path. -/
def entry (tree : FileTree) (path : String) : Except FileError FileEntry := do
  let place ← tree.place path
  match place.name with
  | none => return .directory
  | some name =>
    if longestName < name.utf8ByteSize then throw .nameTooLong
    match tree.entryAt (place.directory ++ [name]) with
    | none => throw .notFound
    | some (.file content) =>
      if place.meansDirectory then throw .notDirectory else return .file content
    | some .directory => return .directory

/-- The entry of a path, if it has one. -/
def entry? (tree : FileTree) (path : String) : Option FileEntry :=
  (tree.entry path).toOption

/-- Whether a path leads to something. -/
def contains (tree : FileTree) (path : String) : Bool :=
  (tree.entry? path).isSome

/-- Whether a path leads to a directory. -/
def isDirectory (tree : FileTree) (path : String) : Bool :=
  tree.entry? path matches some .directory

/-- Whether a path leads to a file. -/
def isFile (tree : FileTree) (path : String) : Bool :=
  tree.entry? path matches some (.file _)

/-- The text of a file. -/
def readText (tree : FileTree) (path : String) : Except FileError String := do
  match ← tree.entry path with
  | .directory => throw .isDirectory
  | .file content =>
    match String.fromUTF8? content with
    | some text => return text
    | none => throw .notText

/-- The content of a file that is written in a mode. -/
def written (mode : WriteMode) (content : ByteArray) :
    Option FileEntry → Except FileError ByteArray
  | none => .ok content
  | some .directory => .error (if mode = .createNew then .exists else .isDirectory)
  | some (.file old) =>
    match mode with
    | .overwrite => .ok content
    | .append => .ok (old ++ content)
    | .createNew => .error .exists

/-- Write a file. -/
def write (tree : FileTree) (path : String) (mode : WriteMode) (content : ByteArray) :
    Except FileError FileTree := do
  let place ← tree.place path
  match place.name with
  | none => throw (if mode = .createNew then .exists else .isDirectory)
  | some name =>
    if place.meansDirectory then throw .isDirectory
    if longestName < name.utf8ByteSize then throw .nameTooLong
    let location := place.directory ++ [name]
    return tree.put location (.file (← written mode content (tree.entryAt location)))

/-- Make a directory in one that exists. -/
def makeDirectory (tree : FileTree) (path : String) : Except FileError FileTree := do
  let place ← tree.place path
  match place.name with
  | none => throw .exists
  | some name =>
    if longestName < name.utf8ByteSize then throw .nameTooLong
    let location := place.directory ++ [name]
    match tree.entryAt location with
    | some _ => throw .exists
    | none => return tree.put location .directory

/-- Make a directory, unless it exists. -/
def ensureDirectory (tree : FileTree) (path : String) : Except FileError FileTree :=
  match tree.makeDirectory path with
  | .ok made => .ok made
  | .error error => if tree.isDirectory path then .ok tree else .error error

/-- Make a directory, given by its names from the last on, and those that lead to it. -/
def ensurePath (tree : FileTree) (rooted : Bool) : List String → FileTree × Option FileError
  | [] => (tree, none)
  | last :: before =>
    let path := Path.ofNames rooted (last :: before).reverse
    match tree.ensureDirectory path with
    | .ok made => (made, none)
    | .error .notFound =>
      match tree.ensurePath rooted before with
      | (outer, some error) => (outer, some error)
      | (outer, none) =>
        match outer.ensureDirectory path with
        | .ok made => (made, none)
        | .error error => (outer, some error)
    | .error error => (tree, some error)

/-- Make the directory of a path and those that lead to it. -/
def ensureDirectories (tree : FileTree) (path : String) : FileTree × Option FileError :=
  tree.ensurePath (Path.isRooted path) (Path.essentialNames path).reverse

/-- Make the directory that holds the place of a path and those that lead to it. -/
def ensureParent (tree : FileTree) (path : String) : FileTree × Option FileError :=
  match Path.parentNames? path with
  | some names => tree.ensurePath (Path.isRooted path) names.reverse
  | none => (tree, none)

/-- The name of an entry right below a directory. -/
def childName? (directory : List String) (key : String) : Option String :=
  let stem := if directory.isEmpty then [] else (keyOf directory).toList ++ ['/']
  let name := key.toList.drop stem.length
  if stem.isPrefixOf key.toList && !name.contains '/' then some (String.ofList name) else none

/-- The names and entries right below a directory, in the order of the names. -/
def children (tree : FileTree) (path : String) : List (String × FileEntry) :=
  match tree.place path with
  | .error _ => []
  | .ok place =>
    let directory := place.directory ++ place.name.toList
    tree.entries.entries.filterMap fun entry =>
      (childName? directory entry.1).map fun name => (name, entry.2)

end FileTree

end Ensemble
