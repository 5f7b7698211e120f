/-
# Texts that trimming leaves alone

A text without a blank at either end stays as it is when it is trimmed, and what is trimmed has no
blank at either end. So a trimmed text stays trimmed when something is put behind it that ends
without a blank, such as a number. What trimming takes from the end of a text are blanks, and blanks
around a text make no difference to what is left of it.
-/

import Mathlib.Data.List.Basic
import Mathlib.Data.List.TakeWhile
import Ensemble.Text.Blank

namespace Ensemble.Text

/-- Characters with no blank at either end stay as they are. -/
theorem trimChars_of_ends {chars : List Char}
    (hfirst : ∀ c, chars.head? = some c → isBlank c = false)
    (hlast : ∀ c, chars.getLast? = some c → isBlank c = false) : trimChars chars = chars := by
  have hreverse : ∀ c, chars.reverse.head? = some c → isBlank c = false := by
    intro c hc
    rw [List.head?_reverse] at hc
    exact hlast c hc
  have hend : chars.reverse.dropWhile isBlank = chars.reverse := trimStartChars_of_head hreverse
  rw [trimChars, trimStartChars_of_head hfirst, trimEndChars, hend, List.reverse_reverse]

/-- A trimmed text has no blank at its start. -/
theorem isBlank_head_of_trim {text : String} (h : trim text = text) {c : Char}
    (hc : text.toList.head? = some c) : isBlank c = false := by
  have hchars : trimStartChars text.toList = text.toList := by
    rw [← h, trim, String.toList_ofList, trimStartChars_trimChars]
  exact head_trimStartChars (hchars.symm ▸ hc)

/-- Trimming leaves nothing exactly of a text of blanks. -/
theorem trim_eq_empty_iff {text : String} : trim text = "" ↔ isBlankText text = true := by
  rw [trim, String.ofList_eq_empty_iff, trimChars, trimEndChars, List.reverse_eq_nil_iff,
    List.dropWhile_eq_nil_iff, isBlankText, List.all_eq_true]
  constructor
  · intro hrest
    have hstart : trimStartChars text.toList = [] := by
      cases htrim : trimStartChars text.toList with
      | nil => rfl
      | cons c rest =>
          have hblank := hrest c (by simp [htrim])
          rw [head_trimStartChars (by rw [htrim]; rfl)] at hblank
          exact Bool.noConfusion hblank
    exact List.dropWhile_eq_nil_iff.1 hstart
  · intro hall
    rw [trimStartChars, List.dropWhile_eq_nil_iff.2 hall]
    simp

/-- What is trimmed at the end of characters are blanks. -/
theorem exists_trimEndChars_append (chars : List Char) :
    ∃ blanks, chars = trimEndChars chars ++ blanks ∧ ∀ c ∈ blanks, isBlank c = true := by
  refine ⟨(chars.reverse.takeWhile isBlank).reverse, ?_, ?_⟩
  · rw [trimEndChars, ← List.reverse_append, List.takeWhile_append_dropWhile, List.reverse_reverse]
  · intro c hc
    exact List.all_eq_true.1 List.all_takeWhile c (List.mem_reverse.1 hc)

theorem trimStartChars_append_of_blank {front chars : List Char}
    (h : ∀ c ∈ front, isBlank c = true) :
    trimStartChars (front ++ chars) = trimStartChars chars :=
  List.dropWhile_append_of_pos h

theorem trimEndChars_append_of_blank {chars behind : List Char}
    (h : ∀ c ∈ behind, isBlank c = true) :
    trimEndChars (chars ++ behind) = trimEndChars chars := by
  have hreverse : ∀ c ∈ behind.reverse, isBlank c = true :=
    fun c hc => h c (List.mem_reverse.1 hc)
  rw [trimEndChars, List.reverse_append, List.dropWhile_append_of_pos hreverse, trimEndChars]

/-- Blanks around characters are trimmed away. -/
theorem trimChars_surrounded {front chars behind : List Char}
    (hfront : ∀ c ∈ front, isBlank c = true) (hbehind : ∀ c ∈ behind, isBlank c = true) :
    trimChars (front ++ chars ++ behind) = trimChars chars := by
  rw [trimChars, List.append_assoc, trimStartChars_append_of_blank hfront, trimStartChars,
    List.dropWhile_append]
  split
  next hnone =>
    -- The characters are blanks themselves, so nothing is left on either side.
    have hchars : trimStartChars chars = [] := List.isEmpty_iff.1 hnone
    have hrest : trimStartChars (behind ++ []) = [] := trimStartChars_append_of_blank hbehind
    rw [List.append_nil, trimStartChars] at hrest
    rw [hrest, trimChars, hchars]
  next => exact trimEndChars_append_of_blank hbehind

/-- A text without a blank at its end. -/
def EndsUnblank (text : String) : Prop :=
  ∀ c, text.toList.getLast? = some c → isBlank c = false

/-- A text that is trimmed at its end has no blank there. -/
theorem endsUnblank_trimEnd (text : String) : EndsUnblank (trimEnd text) := by
  intro c hc
  rw [trimEnd, String.toList_ofList, trimEndChars, List.getLast?_reverse] at hc
  exact head_trimStartChars hc

/-- A trimmed text has no blank at its end. -/
theorem endsUnblank_of_trim {text : String} (h : trim text = text) : EndsUnblank text := by
  have htrimmed : trimEnd (trimStart text) = text := by
    rw [trimEnd, trimStart, String.toList_ofList]
    exact h
  exact htrimmed ▸ endsUnblank_trimEnd (trimStart text)

/-- The end of a text that is not empty is also the end when something stands before it. -/
theorem EndsUnblank.append_left {text : String} (h : EndsUnblank text) (hsome : text ≠ "")
    (front : String) : EndsUnblank (front ++ text) := by
  intro c hc
  have hchars : text.toList ≠ [] := fun hnil => hsome (String.toList_eq_nil_iff.1 hnil)
  rw [String.toList_append, List.getLast?_append_of_ne_nil _ hchars] at hc
  exact h c hc

/-- A digit is not blank. -/
theorem isBlank_of_isDigit {c : Char} (h : c.isDigit = true) : isBlank c = false := by
  rw [Char.isDigit, Bool.and_eq_true, decide_eq_true_eq, decide_eq_true_eq] at h
  have hlow : 48 ≤ c.toNat := h.1
  have hhigh : c.toNat ≤ 57 := h.2
  simp only [isBlank, Bool.or_eq_false_iff, Bool.and_eq_false_iff, decide_eq_false_iff_not,
    beq_eq_false_iff_ne]
  omega

/-- A trimmed text that is not empty stays trimmed when digits are put behind it. -/
theorem trimChars_append_digits {front : List Char} (hsome : front ≠ [])
    (hfront : ∀ c, front.head? = some c → isBlank c = false) (mark : Char) (number : Nat) :
    trimChars (front ++ mark :: Nat.toDigits 10 number) =
      front ++ mark :: Nat.toDigits 10 number := by
  apply trimChars_of_ends
  · intro c hc
    rw [List.head?_append_of_ne_nil _ hsome] at hc
    exact hfront c hc
  · intro c hc
    rw [List.getLast?_append_of_ne_nil _ (List.cons_ne_nil _ _),
      List.getLast?_cons_of_ne_nil Nat.toDigits_ne_nil] at hc
    exact isBlank_of_isDigit
      (Nat.isDigit_of_mem_toDigits (by decide) (by decide) (List.mem_of_getLast? hc))

end Ensemble.Text
