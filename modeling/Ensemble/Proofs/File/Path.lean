/-
# The names of paths

A path is put together from names with slashes between them, and the names are read off again. The
path of a directory that leads to a place is a part of the path to the place, so it is no longer,
and has no other characters.
-/

import Ensemble.File.Path
import Ensemble.Proofs.Text.Bytes
import Mathlib.Data.List.Basic

namespace Ensemble

/-! ## Pieces between separators -/

namespace Text

/-- No piece holds the separator. -/
theorem not_mem_of_mem_splitChars {separator : Char} {chars piece : List Char}
    (h : piece ∈ splitChars separator chars) : separator ∉ piece := by
  induction chars generalizing piece with
  | nil =>
      rw [splitChars, List.mem_singleton] at h
      simp [h]
  | cons c rest ih =>
      rw [splitChars] at h
      split at h
      next =>
        rcases List.mem_cons.1 h with rfl | h
        · exact List.not_mem_nil
        · exact ih h
      next hother =>
        cases hpieces : splitChars separator rest with
        | nil => exact absurd hpieces (splitChars_ne_nil separator rest)
        | cons first others =>
            rw [hpieces, consLine] at h
            rw [hpieces] at ih
            rcases List.mem_cons.1 h with rfl | h
            · rw [List.mem_cons, not_or]
              exact ⟨Ne.symm hother, ih List.mem_cons_self⟩
            · exact ih (List.mem_cons_of_mem _ h)

theorem splitChars_of_not_mem {separator : Char} {chars : List Char} (h : separator ∉ chars) :
    splitChars separator chars = [chars] := by
  induction chars with
  | nil => rfl
  | cons c rest ih =>
      rw [List.mem_cons, not_or] at h
      rw [splitChars, if_neg (Ne.symm h.1), ih h.2, consLine]

/-- Fewer pieces that are joined are a part of all of them joined. -/
theorem intercalate_sublist {separator : List Char} {some all : List (List Char)}
    (h : some.Sublist all) : (separator.intercalate some).Sublist (separator.intercalate all) := by
  induction h with
  | slnil => exact .slnil
  | @cons fewer more piece hsub ih =>
      cases more with
      | nil =>
          rw [List.sublist_nil.1 hsub]
          exact List.nil_sublist _
      | cons next more =>
          rw [List.intercalate_cons_cons]
          exact ih.trans (List.sublist_append_right _ _)
  | @cons_cons fewer more piece hsub ih =>
      cases fewer with
      | nil =>
          rw [List.intercalate_singleton]
          cases more with
          | nil => rw [List.intercalate_singleton]
          | cons next more =>
              rw [List.intercalate_cons_cons, List.append_assoc]
              exact List.sublist_append_left _ _
      | cons first fewer =>
          cases more with
          | nil => cases hsub
          | cons next more =>
              rw [List.intercalate_cons_cons, List.intercalate_cons_cons]
              exact (List.Sublist.refl _).append ih

end Text

namespace Path

/-- A name that can stand between slashes. -/
def IsName (name : String) : Prop :=
  name ≠ "" ∧ '/' ∉ name.toList

theorem isName_of_mem_names {path name : String} (h : name ∈ names path) : IsName name := by
  obtain ⟨hsplit, hsome⟩ := List.mem_filter.1 h
  obtain ⟨piece, hpiece, rfl⟩ := List.mem_map.1 hsplit
  refine ⟨by simpa using hsome, ?_⟩
  rw [String.toList_ofList]
  exact Text.not_mem_of_mem_splitChars hpiece

/-- A path has the names that stand before a slash and behind it. -/
theorem names_append (front behind : String) :
    names (front ++ "/" ++ behind) = names front ++ names behind := by
  have hchars : (front ++ "/" ++ behind).toList = front.toList ++ '/' :: behind.toList := by simp
  rw [names, Text.split, hchars, Text.splitChars_append, List.map_append, List.filter_append]
  rfl

/-- The names of a text without a leading slash are those of the text with it. -/
theorem names_slash (rest : String) : names ("/" ++ rest) = names rest := by
  have happend := names_append "" rest
  rwa [String.empty_append] at happend

/-- A path continued by another has the names of both. -/
theorem names_join (base : String) {path : String} (h : isRooted path = false) :
    names (join base path) = names base ++ names path := by
  rw [join]
  split
  next hfirst =>
    rcases Bool.or_eq_true_iff.1 hfirst with hrooted | hempty
    · exact absurd (beq_iff_eq.2 (of_decide_eq_true hrooted)) (Bool.eq_false_iff.1 h)
    · rw [String.isEmpty_iff.1 hempty]
      rfl
  next =>
    split
    next hslash =>
      obtain ⟨front, hfront⟩ := List.getLast?_eq_some_iff.1 hslash
      obtain rfl : base = String.ofList front ++ "/" := by
        rw [← String.toList_inj, hfront]
        simp
      have hbase := names_append (String.ofList front) ""
      rw [String.append_empty] at hbase
      rw [names_append, hbase]
      exact (congrArg (· ++ names path) (List.append_nil _)).symm
    next => exact names_append base path

theorem names_intercalate {parts : List String} (h : ∀ part ∈ parts, IsName part) :
    names ("/".intercalate parts) = parts := by
  cases parts with
  | nil => decide
  | cons part rest =>
      have hsplit : Text.split '/' ("/".intercalate (part :: rest)) = part :: rest := by
        have hpieces : ((part :: rest).map String.toList).flatMap (Text.splitChars '/') =
            (part :: rest).map String.toList := by
          rw [List.flatMap_map]
          have hsingle : ∀ other ∈ part :: rest,
              Text.splitChars '/' other.toList = [other.toList] :=
            fun other hother => Text.splitChars_of_not_mem (h other hother).2
          rw [List.flatMap_congr hsingle, ← List.map_eq_flatMap]
        have hslash : "/".toList = ['/'] := rfl
        rw [Text.split, String.toList_intercalate, hslash,
          Text.splitChars_intercalate '/' (by simp), hpieces, List.map_map]
        simp [Function.comp_def]
      rw [names, hsplit, List.filter_eq_self]
      intro name hname
      simpa using (h name hname).1

/-- The names of a path are read off it. -/
theorem names_ofNames (rooted : Bool) {parts : List String} (h : ∀ part ∈ parts, IsName part) :
    names (ofNames rooted parts) = parts := by
  cases rooted with
  | false =>
      rw [ofNames, if_neg (by simp), String.empty_append]
      exact names_intercalate h
  | true =>
      rw [ofNames, if_pos rfl, names_slash]
      exact names_intercalate h

theorem intercalate_sublist_of_names {path : String} {parts : List String}
    (h : parts.Sublist (names path)) : ("/".intercalate parts).toList.Sublist path.toList := by
  have hpieces : (parts.map String.toList).Sublist (Text.splitChars '/' path.toList) := by
    have hsplit := (h.trans (List.filter_sublist (l := Text.split '/' path))).map String.toList
    have hback : String.toList ∘ String.ofList = id := funext fun _ => String.toList_ofList
    rwa [Text.split, List.map_map, hback, List.map_id] at hsplit
  have hslash : "/".toList = ['/'] := rfl
  rw [String.toList_intercalate, hslash]
  conv => rhs; rw [← Text.intercalate_splitChars '/' path.toList]
  exact Text.intercalate_sublist hpieces

/-- The path of some of the names of another path is a part of it. -/
theorem ofNames_sublist {path : String} {parts : List String} (h : parts.Sublist (names path)) :
    (ofNames (isRooted path) parts).toList.Sublist path.toList := by
  cases hrooted : isRooted path with
  | false =>
      rw [ofNames, if_neg (by simp), String.empty_append]
      exact intercalate_sublist_of_names h
  | true =>
      obtain ⟨rest, hrest⟩ := List.head?_eq_some_iff.1 (beq_iff_eq.1 hrooted)
      obtain rfl : path = "/" ++ String.ofList rest := by
        rw [← String.toList_inj, hrest]
        simp
      rw [names_slash] at h
      rw [ofNames, if_pos rfl, String.toList_append, String.toList_append]
      exact (List.Sublist.refl _).append (intercalate_sublist_of_names h)

end Path

end Ensemble
