/-
# Lines that are taken and written

The first lines of a text, newlines included, are the lines of the text that they make up. Lines
that are written with a newline behind each are read back, unless they have newlines of their own or
end in a carriage return, which would be taken for a part of the newline.
-/

import Ensemble.Text.Lines

namespace Ensemble.Text

theorem take_consLine (c : Char) (lines : List (List Char)) (count : Nat) :
    (consLine c lines).take (count + 1) = consLine c (lines.take (count + 1)) := by
  cases lines <;> simp [consLine]

theorem flatten_consLine (c : Char) (lines : List (List Char)) :
    (consLine c lines).flatten = c :: lines.flatten := by
  cases lines <;> simp [consLine]

/-- The first lines of a text are the lines of what they make up. -/
theorem inclusiveLines_take (chars : List Char) (count : Nat) :
    inclusiveLines ((inclusiveLines chars).take count).flatten =
      (inclusiveLines chars).take count := by
  induction chars generalizing count with
  | nil => simp [inclusiveLines]
  | cons c rest ih =>
      cases count with
      | zero => simp [inclusiveLines]
      | succ count =>
          rw [inclusiveLines]
          split
          next hnewline =>
            rw [List.take_succ_cons, List.flatten_cons, List.singleton_append, inclusiveLines,
              if_pos rfl, ih]
          next hother =>
            rw [take_consLine, flatten_consLine, inclusiveLines, if_neg hother, ih]

/-- The first lines of a text begin it. -/
theorem flatten_take_prefix (chars : List Char) (count : Nat) :
    ((inclusiveLines chars).take count).flatten <+: chars := by
  have hwhole := flatten_inclusiveLines chars
  rw [← List.take_append_drop count (inclusiveLines chars), List.flatten_append] at hwhole
  exact ⟨_, hwhole⟩

/-! ## Written lines -/

/-- A line that is told apart from its newline: it has none itself and does not end in a carriage
return. -/
def IsPlainLine (line : String) : Prop :=
  '\n' ∉ line.toList ∧ line.toList.getLast? ≠ some '\r'

/-- Up to a newline there is one line. -/
theorem inclusiveLines_append {line : List Char} (h : '\n' ∉ line) (rest : List Char) :
    inclusiveLines (line ++ '\n' :: rest) = (line ++ ['\n']) :: inclusiveLines rest := by
  induction line with
  | nil => rfl
  | cons c line ih =>
      rw [List.mem_cons, not_or] at h
      rw [List.cons_append, inclusiveLines, if_neg (Ne.symm h.1), ih h.2, consLine,
        List.cons_append]

theorem stripNewline_append {line : List Char} (h : line.getLast? ≠ some '\r') :
    stripNewline (line ++ ['\n']) = line := by
  rw [stripNewline, List.reverse_append, List.reverse_singleton, List.singleton_append]
  rw [List.getLast?_eq_head?_reverse] at h
  split
  next rest heq =>
    rw [(List.cons.inj heq).2] at h
    exact absurd rfl h
  next rest _ heq => rw [← (List.cons.inj heq).2, List.reverse_reverse]
  next _ hother => exact absurd rfl (hother _)

/-- Lines that are written with a newline behind each are read back. -/
theorem lines_join {written : List String} (h : ∀ line ∈ written, IsPlainLine line) :
    lines (String.join (written.map (· ++ "\n"))) = written := by
  induction written with
  | nil => rfl
  | cons line rest ih =>
      have hline := h line List.mem_cons_self
      have hrest := ih fun other hother => h other (List.mem_cons_of_mem _ hother)
      have hchars : (String.join ((line :: rest).map (· ++ "\n"))).toList =
          line.toList ++ '\n' :: (String.join (rest.map (· ++ "\n"))).toList := by
        simp
      rw [lines, lineChars, hchars, inclusiveLines_append hline.1, List.map_cons, List.map_cons,
        stripNewline_append hline.2, String.ofList_toList]
      exact congrArg (line :: ·) hrest

end Ensemble.Text
