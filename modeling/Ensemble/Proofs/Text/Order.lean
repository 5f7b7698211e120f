/-
# Texts one behind the other

A text that is put together from others still shows them in their order when more is put around
it, and also when the blanks at its end are trimmed, as long as none of the texts that are looked
for ends in a blank itself.
-/

import Ensemble.Proofs.Text.Trimming

namespace Ensemble.Text

/-- Some texts occur among characters one behind the other, without an overlap. -/
def InOrder : List String → List Char → Prop
  | [], _ => True
  | piece :: rest, chars => ∃ front back, chars = front ++ piece.toList ++ back ∧ InOrder rest back

/-- A text that ends among blanks, and not in a blank, is empty. -/
theorem EndsUnblank.toList_eq_nil {text : String} (h : EndsUnblank text)
    {front kept blanks : List Char} (hsplit : front ++ text.toList = kept ++ blanks)
    (hsome : blanks ≠ []) (hblanks : ∀ c ∈ blanks, isBlank c = true) : text.toList = [] := by
  by_contra hchars
  have hlast : text.toList.getLast? = blanks.getLast? := by
    rw [← List.getLast?_append_of_ne_nil front hchars, hsplit,
      List.getLast?_append_of_ne_nil kept hsome]
  cases hblank : blanks.getLast? with
  | none => exact hsome (List.getLast?_eq_none_iff.1 hblank)
  | some c =>
      have htrue := hblanks c (List.mem_of_getLast? hblank)
      rw [h c (hlast.trans hblank)] at htrue
      exact Bool.noConfusion htrue

namespace InOrder

variable {pieces others : List String} {chars more : List Char}

theorem self (piece : String) : InOrder [piece] piece.toList :=
  ⟨[], [], by simp, trivial⟩

/-- Characters in front do not matter. -/
theorem behind (h : InOrder pieces chars) (front : List Char) :
    InOrder pieces (front ++ chars) := by
  cases pieces with
  | nil => trivial
  | cons piece rest =>
      obtain ⟨earlier, back, rfl, hrest⟩ := h
      exact ⟨front ++ earlier, back, by simp, hrest⟩

/-- What is in order here and what is in order behind it are in order together. -/
theorem append (hfirst : InOrder pieces chars) (hsecond : InOrder others more) :
    InOrder (pieces ++ others) (chars ++ more) := by
  induction pieces generalizing chars with
  | nil => exact hsecond.behind chars
  | cons piece rest ih =>
      obtain ⟨front, back, rfl, hrest⟩ := hfirst
      exact ⟨front, back ++ more, by simp, ih hrest⟩

/-- What is in order in a part is in order in the whole. -/
theorem widen (h : InOrder pieces chars) (hpart : chars <:+: more) : InOrder pieces more := by
  obtain ⟨front, back, rfl⟩ := hpart
  have hnone : InOrder [] back := trivial
  simpa using (h.behind front).append hnone

/-- A text in front does not matter. -/
theorem behindText {text : String} (h : InOrder pieces text.toList) (front : String) :
    InOrder pieces (front ++ text).toList := by
  rw [String.toList_append]
  exact h.behind front.toList

/-- A text at the end does not matter. -/
theorem beforeText {text : String} (h : InOrder pieces text.toList) (back : String) :
    InOrder pieces (text ++ back).toList := by
  rw [String.toList_append]
  exact h.widen (List.prefix_append _ _).isInfix

/-- When texts are joined, the pieces of each are in order in the whole. -/
theorem intercalate {α : Type} (separator : List Char) {piecesOf : α → List String}
    {charsOf : α → List Char} {items : List α}
    (h : ∀ item ∈ items, InOrder (piecesOf item) (charsOf item)) :
    InOrder (items.flatMap piecesOf) (separator.intercalate (items.map charsOf)) := by
  induction items with
  | nil => trivial
  | cons item rest ih =>
      obtain ⟨hitem, hrest⟩ := List.forall_mem_cons.1 h
      rw [List.flatMap_cons, List.map_cons]
      by_cases hnil : rest = []
      · subst hnil
        simpa using hitem
      · rw [List.intercalate_cons_of_ne_nil (by simpa using hnil), List.append_assoc]
        exact hitem.append ((ih hrest).behind separator)

/-- Blanks at the end do not matter to pieces that do not end in a blank. -/
theorem dropBlanks {kept blanks : List Char} (h : InOrder pieces (kept ++ blanks))
    (hblanks : ∀ c ∈ blanks, isBlank c = true) (hends : ∀ piece ∈ pieces, EndsUnblank piece) :
    InOrder pieces kept := by
  induction pieces generalizing kept blanks with
  | nil => trivial
  | cons piece rest ih =>
      obtain ⟨hend, hothers⟩ := List.forall_mem_cons.1 hends
      obtain ⟨front, back, hsplit, hrest⟩ := h
      rcases List.append_eq_append_iff.1 hsplit with ⟨excess, hexcess, rfl⟩ | ⟨left, rfl, rfl⟩
      · -- All behind what is kept is blank, so only an empty piece can end there.
        have hback : InOrder rest ([] : List Char) :=
          ih hrest (fun c hc => hblanks c (List.mem_append_right excess hc)) hothers
        by_cases hexcess_nil : excess = []
        · subst hexcess_nil
          exact ⟨front, [], by simpa using hexcess.symm, hback⟩
        · have hempty : piece.toList = [] := hend.toList_eq_nil hexcess hexcess_nil
            fun c hc => hblanks c (List.mem_append_left back hc)
          exact ⟨kept, [], by simp [hempty], hback⟩
      · exact ⟨front, left, rfl, ih hrest hblanks hothers⟩

/-- Trimming the end leaves pieces in order that do not end in a blank. -/
theorem trimEndChars (h : InOrder pieces chars) (hends : ∀ piece ∈ pieces, EndsUnblank piece) :
    InOrder pieces (Text.trimEndChars chars) := by
  obtain ⟨blanks, hchars, hblanks⟩ := exists_trimEndChars_append chars
  rw [hchars] at h
  exact h.dropBlanks hblanks hends

end InOrder

end Ensemble.Text
