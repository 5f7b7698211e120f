/-
# Splitting texts

A text is split at every occurrence of a separator, so it has one piece more than separators, and
joining the pieces with the separator gives the text back. Texts that are joined with a separator
have the pieces of all of them.
-/

import Ensemble.Text.Lines

namespace Ensemble.Text

/-- The pieces between the separators. -/
def splitChars (separator : Char) : List Char → List (List Char)
  | [] => [[]]
  | c :: rest =>
    if c = separator then [] :: splitChars separator rest
    else consLine c (splitChars separator rest)

/-- The pieces of a text between the separators. -/
def split (separator : Char) (text : String) : List String :=
  (splitChars separator text.toList).map String.ofList

/-- There is at least one piece. -/
theorem splitChars_ne_nil (separator : Char) (chars : List Char) :
    splitChars separator chars ≠ [] := by
  cases chars with
  | nil => simp [splitChars]
  | cons c rest =>
    simp only [splitChars]
    split
    · simp
    · cases splitChars separator rest <;> simp [consLine]

/-- The pieces joined give the text back. -/
theorem intercalate_splitChars (separator : Char) (chars : List Char) :
    [separator].intercalate (splitChars separator chars) = chars := by
  induction chars with
  | nil => simp [splitChars, List.intercalate]
  | cons c rest ih =>
    simp only [splitChars]
    cases hpieces : splitChars separator rest with
    | nil => exact absurd hpieces (splitChars_ne_nil separator rest)
    | cons piece pieces =>
      rw [hpieces] at ih
      split
      next h =>
        subst h
        simp only [List.intercalate, List.intersperse_cons_cons, List.flatten_cons] at ih ⊢
        rw [ih]
        simp
      next =>
        cases pieces <;> simp_all [consLine, List.intercalate]

theorem split_ne_nil (separator : Char) (text : String) : split separator text ≠ [] := by
  rw [split, ne_eq, List.map_eq_nil_iff]
  exact splitChars_ne_nil separator text.toList

/-- The pieces of what stands before a separator and behind it are the pieces of the whole. -/
theorem splitChars_append (separator : Char) (front behind : List Char) :
    splitChars separator (front ++ separator :: behind) =
      splitChars separator front ++ splitChars separator behind := by
  induction front with
  | nil => simp [splitChars]
  | cons c front ih =>
    rw [List.cons_append, splitChars, splitChars, ih]
    split
    next => rfl
    next =>
      cases hfront : splitChars separator front with
      | nil => exact absurd hfront (splitChars_ne_nil separator front)
      | cons piece pieces => rfl

/-- Characters that are joined with a separator have the pieces of all their parts. -/
theorem splitChars_intercalate (separator : Char) {parts : List (List Char)}
    (hsome : parts ≠ []) :
    splitChars separator ([separator].intercalate parts) =
      parts.flatMap (splitChars separator) := by
  induction parts with
  | nil => exact absurd rfl hsome
  | cons part rest ih =>
    cases rest with
    | nil => simp [List.intercalate]
    | cons next rest =>
      rw [List.intercalate_cons_cons, List.append_assoc, List.singleton_append,
        splitChars_append, ih (List.cons_ne_nil _ _), ← List.flatMap_cons]

/-- Texts that are joined with commas have the pieces of all of them. -/
theorem split_intercalate {texts : List String} (hsome : texts ≠ []) :
    split ',' (",".intercalate texts) = texts.flatMap (split ',') := by
  have hcomma : ",".toList = [','] := rfl
  rw [split, String.toList_intercalate, hcomma, splitChars_intercalate ',' (by simpa using hsome),
    List.flatMap_map, List.map_flatMap]
  rfl

end Ensemble.Text
