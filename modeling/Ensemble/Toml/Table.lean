/-
# Tables of TOML documents

A table is defined once: by a header, inside braces, or by keys joined by dots. Headers may define
the tables around a table later, and one behind another add to a list of tables; joined keys only
reach tables that joined keys have made.
-/

import Ensemble.Document.Value

namespace Ensemble.Toml

/-- How a table came to be. -/
inductive TableKind where
  /-- It has a header of its own. -/
  | header
  /-- A header below it made it. -/
  | implied
  /-- Joined keys made it. -/
  | dotted
deriving DecidableEq, Repr

/-- What stands under a key. -/
inductive Item where
  | value (value : Value)
  | table (kind : TableKind) (members : List (String × Item))
  | tables (elements : List (List (String × Item)))
deriving Inhabited

/-- What stands under the keys of a table, in the order of the document. -/
abbrev Members := List (String × Item)

namespace Members

/-- Replace what stands under a key. -/
def replace (members : Members) (key : String) (item : Item) : Members :=
  members.map fun member => if member.1 = key then (key, item) else member

/-- Edit the table that keys lead to; tables on the way are made. The last of a list of tables is
the one that is meant. -/
def edit (dotted : Bool) (change : TableKind → Members → Option Members) :
    List String → TableKind → Members → Option Members
  | [], kind, members => change kind members
  | key :: rest, _, members =>
    match members.lookup key with
    | none => do
      let kind := if dotted then TableKind.dotted else TableKind.implied
      let inner ← edit dotted change rest kind []
      return members ++ [(key, .table kind inner)]
    | some (.value _) => none
    | some (.table kind inner) =>
      if dotted ∧ kind = .header then none
      else do
        let inner ← edit dotted change rest kind inner
        return members.replace key (.table kind inner)
    | some (.tables elements) =>
      match elements.reverse with
      | [] => none
      | last :: before => do
        let inner ← edit dotted change rest .header last
        return members.replace key (.tables (inner :: before).reverse)

/-- Put a value under keys joined by dots, where nothing stands yet. -/
def assign (path : List String) (key : String) (value : Value) (kind : TableKind)
    (members : Members) : Option Members :=
  let change (kind : TableKind) (inner : Members) : Option Members :=
    if decide (kind = .dotted) == path.isEmpty then none
    else if (inner.lookup key).isSome then none
    else some (inner ++ [(key, .value value)])
  edit true change path kind members

/-- Open the table of a header. -/
def openTable (path : List String) (key : String) (members : Members) : Option Members :=
  let change (_ : TableKind) (inner : Members) : Option Members :=
    match inner.lookup key with
    | none => some (inner ++ [(key, .table .header [])])
    | some (.table .implied content) => some (inner.replace key (.table .header content))
    | some _ => none
  edit false change path .header members

/-- Open one more table of a list. -/
def openElement (path : List String) (key : String) (members : Members) : Option Members :=
  let change (_ : TableKind) (inner : Members) : Option Members :=
    match inner.lookup key with
    | none => some (inner ++ [(key, .tables [[]])])
    | some (.tables elements) => some (inner.replace key (.tables (elements ++ [[]])))
    | some _ => none
  edit false change path .header members

end Members

mutual

/-- What stands under a key as a value. -/
def Item.toValue : Item → Value
  | .value value => value
  | .table _ members => .record (membersToValues members)
  | .tables elements => .list (elementsToValues elements)

/-- Members as those of a record. -/
def membersToValues : List (String × Item) → List (String × Value)
  | [] => []
  | (key, item) :: rest => (key, item.toValue) :: membersToValues rest

/-- Tables as records. -/
def elementsToValues : List (List (String × Item)) → List Value
  | [] => []
  | members :: rest => .record (membersToValues members) :: elementsToValues rest

end

end Ensemble.Toml
