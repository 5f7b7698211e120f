/-
# What a prompt contains

A prompt ends with its task, and holds a line for every entry of its context, in the words of the
context.
-/

import Ensemble.Agent.Prompt
import Ensemble.Proofs.Dictionary

namespace Ensemble

namespace Prompt

/-- Every part of a joined list is in the whole. -/
theorem infix_intercalate (separator : List Char) {parts : List (List Char)} {part : List Char}
    (h : part ∈ parts) : part <:+: separator.intercalate parts := by
  induction parts with
  | nil => simp at h
  | cons head rest ih =>
      cases rest with
      | nil =>
          have hwhole : separator.intercalate [head] = head := List.intercalate_singleton
          exact ⟨[], [], by rw [hwhole, List.mem_singleton.1 h, List.append_nil, List.nil_append]⟩
      | cons second rest =>
          rw [List.intercalate_cons_cons]
          rcases List.mem_cons.1 h with rfl | h
          · exact ⟨[], separator ++ separator.intercalate (second :: rest), by simp⟩
          · exact (ih h).trans (List.suffix_append _ _).isInfix

/-- The last part of a joined list is at the end of the whole. -/
theorem suffix_intercalate (separator : List Char) (parts : List (List Char))
    (last : List Char) : last <:+ separator.intercalate (parts ++ [last]) := by
  induction parts with
  | nil =>
      have hwhole : separator.intercalate [last] = last := List.intercalate_singleton
      exact ⟨[], by rw [List.nil_append, List.nil_append, hwhole]⟩
  | cons head rest ih =>
      rw [List.cons_append, List.intercalate_cons_of_ne_nil (by simp)]
      exact ih.trans (List.suffix_append _ _)

variable (name role instructions task : String)

/-- A prompt ends with its task. -/
theorem suffix_compose (context : Option Context) :
    ("Task: " ++ task).toList <:+ (compose name role instructions context task).toList := by
  rw [compose, String.toList_intercalate, List.map_append]
  exact suffix_intercalate _ _ _

/-- A prompt holds the line of every entry of its context. -/
theorem infix_compose {context : Context} {key : String} {datum : Datum}
    (h : context.get? key = some datum) :
    (contextLine (key, datum)).toList <:+:
      (compose name role instructions (some context) task).toList := by
  have hmem : (key, datum) ∈ context.entries := Dictionary.get?_eq_some_iff.1 h
  have hsome : context.isEmpty = false := by
    rw [Dictionary.isEmpty, List.isEmpty_eq_false_iff]
    exact List.ne_nil_of_mem hmem
  have hline : (contextLine (key, datum)).toList <:+: (renderContext context).toList := by
    rw [renderContext, String.toList_intercalate]
    exact infix_intercalate _ (List.mem_map_of_mem (List.mem_map_of_mem hmem))
  have hpart : ("Context:\n" ++ renderContext context).toList <:+:
      (compose name role instructions (some context) task).toList := by
    rw [compose, String.toList_intercalate]
    apply infix_intercalate
    apply List.mem_map_of_mem
    simp [contextPart, hsome]
  refine hline.trans (List.IsInfix.trans ?_ hpart)
  rw [String.toList_append]
  exact (List.suffix_append _ _).isInfix

/-- The line of a text holds it as it is. -/
theorem contextLine_text (key value : String) :
    contextLine (key, .text value) = "- " ++ key ++ ": " ++ value := rfl

end Prompt

end Ensemble
