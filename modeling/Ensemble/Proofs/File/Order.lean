/-
# The order of a directory

The entries right below a directory come in ascending order of their names, each name once. Their
paths differ only in the name at the end, and a tree keeps its entries in the order of their paths.
-/

import Ensemble.File.Tree

namespace Ensemble.FileTree

/-- Texts that start alike are ordered by what follows. -/
theorem lt_of_append_left_lt {start left right : List Char}
    (h : start ++ left < start ++ right) : left < right := by
  induction start with
  | nil => exact h
  | cons c rest ih => exact ih (List.cons_lt_cons_self.1 h)

/-- What stands before the name in the path of an entry right below a directory. -/
def childStem (directory : List String) : List Char :=
  if directory.isEmpty then [] else (keyOf directory).toList ++ ['/']

/-- The path of an entry right below a directory ends with its name. -/
theorem toList_of_childName? {directory : List String} {key name : String}
    (h : childName? directory key = some name) :
    key.toList = childStem directory ++ name.toList := by
  rw [show childName? directory key =
    if (childStem directory).isPrefixOf key.toList &&
        !(key.toList.drop (childStem directory).length).contains '/' then
      some (String.ofList (key.toList.drop (childStem directory).length))
    else none from rfl] at h
  split at h
  next hchild =>
    rw [Bool.and_eq_true] at hchild
    obtain ⟨rest, hrest⟩ := List.isPrefixOf_iff_prefix.1 hchild.1
    obtain rfl := Option.some.inj h
    rw [String.toList_ofList, ← hrest, List.drop_left]
  next => cases h

/-- The names right below a directory are ordered as their paths are. -/
theorem childName?_lt {directory : List String} {first second name other : String}
    (hname : childName? directory first = some name)
    (hother : childName? directory second = some other) (hlt : first < second) : name < other := by
  rw [String.lt_iff, toList_of_childName? hname, toList_of_childName? hother] at hlt
  exact String.lt_iff.2 (lt_of_append_left_lt hlt)

/-- The entries right below a directory come in ascending order of their names. -/
theorem children_ascend (tree : FileTree) (path : String) :
    (tree.children path).Pairwise fun left right => left.1 < right.1 := by
  rw [children]
  split
  next => exact .nil
  next place _ =>
    refine List.Pairwise.filterMap _ (fun first second hlt left hleft right hright => ?_)
      tree.entries.ascend
    obtain ⟨name, hname, rfl⟩ := Option.map_eq_some_iff.1 hleft
    obtain ⟨other, hother, rfl⟩ := Option.map_eq_some_iff.1 hright
    exact childName?_lt hname hother hlt

end Ensemble.FileTree
