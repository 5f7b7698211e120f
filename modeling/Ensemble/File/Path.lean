/-
# Paths

A path is a text of names between slashes. A leading slash starts at the root, one dot stands for
the place itself and two for the directory that holds it; empty names mean nothing.
-/

import Ensemble.Text.Split

namespace Ensemble.Path

/-- A path continued by another, which stands alone when it starts at the root. -/
def join (base path : String) : String :=
  if path.toList.head? = some '/' || base.isEmpty then path
  else if base.toList.getLast? = some '/' then base ++ path
  else base ++ "/" ++ path

/-- The names of a path. -/
def names (path : String) : List String :=
  (Text.split '/' path).filter fun name => !name.isEmpty

/-- Whether a path starts at the root. -/
def isRooted (path : String) : Bool :=
  path.toList.head? == some '/'

/-- Whether a slash follows the last name of a path. -/
def endsWithSlash (path : String) : Bool :=
  path.toList.getLast? == some '/'

/-- The text of a path with some names. -/
def ofNames (rooted : Bool) (names : List String) : String :=
  (if rooted then "/" else "") ++ "/".intercalate names

/-- The names that matter: a dot stands only at the start of a path. -/
def essentialNames (path : String) : List String :=
  match names path with
  | [] => []
  | first :: rest =>
    let kept := rest.filter (· != ".")
    if first = "." ∧ isRooted path then kept else first :: kept

/-- The names of the directory that holds the place of a path; `none` for the root and for the
empty path. -/
def parentNames? (path : String) : Option (List String) :=
  match essentialNames path with
  | [] => none
  | names => some names.dropLast

/-- The path of the directory that holds the place of a path. -/
def parent (path : String) : String :=
  ofNames (isRooted path) ((parentNames? path).getD [])

/-- A name split at its last dot, unless the dot starts it. -/
def splitExtension (name : String) : String × Option String :=
  let reversed := name.toList.reverse
  let extension := (reversed.takeWhile (· != '.')).reverse
  let stem := ((reversed.dropWhile (· != '.')).drop 1).reverse
  if stem.isEmpty then (name, none)
  else (String.ofList stem, some (String.ofList extension))

/-- A name without its extension. -/
def stem (name : String) : String :=
  (splitExtension name).1

/-- What follows the last dot of a name. -/
def extension? (name : String) : Option String :=
  (splitExtension name).2

end Ensemble.Path
