/-
# Blank characters and trimming

A character is blank when it has the Unicode property White_Space. Trimming removes blanks
from the ends of a text and nothing else; a text is blank when trimming leaves nothing.
-/

namespace Ensemble.Text

/-- The Unicode property White_Space. -/
def isBlank (c : Char) : Bool :=
  let code := c.toNat
  (decide (0x09 ≤ code) && decide (code ≤ 0x0D)) || code == 0x20 || code == 0x85 || code == 0xA0 ||
    code == 0x1680 || (decide (0x2000 ≤ code) && decide (code ≤ 0x200A)) || code == 0x2028 ||
    code == 0x2029 || code == 0x202F || code == 0x205F || code == 0x3000

/-- The characters from the first one that is not blank on. -/
def trimStartChars (chars : List Char) : List Char :=
  chars.dropWhile isBlank

/-- The characters up to the last one that is not blank. -/
def trimEndChars (chars : List Char) : List Char :=
  (chars.reverse.dropWhile isBlank).reverse

/-- The characters from the first to the last one that is not blank. -/
def trimChars (chars : List Char) : List Char :=
  trimEndChars (trimStartChars chars)

/-- A text without the blanks at both ends. -/
def trim (text : String) : String :=
  String.ofList (trimChars text.toList)

/-- A text without the blanks at its start. -/
def trimStart (text : String) : String :=
  String.ofList (trimStartChars text.toList)

/-- A text without the blanks at its end. -/
def trimEnd (text : String) : String :=
  String.ofList (trimEndChars text.toList)

/-- A text of blanks only. -/
def isBlankText (text : String) : Bool :=
  text.toList.all isBlank

/-- After trimming the start there is no blank at the start. -/
theorem head_trimStartChars {chars : List Char} {c : Char}
    (h : (trimStartChars chars).head? = some c) : isBlank c = false := by
  have hnot := List.head?_dropWhile_not isBlank chars
  rw [trimStartChars] at h
  rw [h] at hnot
  exact hnot

/-- Characters that do not start with a blank stay as they are when the start is trimmed. -/
theorem trimStartChars_of_head {chars : List Char}
    (h : ∀ c, chars.head? = some c → isBlank c = false) : trimStartChars chars = chars := by
  cases chars with
  | nil => rfl
  | cons c rest => simp [trimStartChars, h c rfl]

/-- Trimming the end leaves a prefix. -/
theorem trimEndChars_prefix (chars : List Char) : trimEndChars chars <+: chars := by
  have hsuffix : chars.reverse.dropWhile isBlank <:+ chars.reverse := List.dropWhile_suffix _
  simpa [trimEndChars] using List.reverse_prefix.2 hsuffix

/-- Trimming the end twice is trimming it once. -/
theorem trimEndChars_trimEndChars (chars : List Char) :
    trimEndChars (trimEndChars chars) = trimEndChars chars := by
  have htwice : (chars.reverse.dropWhile isBlank).dropWhile isBlank =
      chars.reverse.dropWhile isBlank :=
    trimStartChars_of_head fun _ => head_trimStartChars
  simp [trimEndChars, htwice]

/-- What is trimmed has no blank at the start. -/
theorem trimStartChars_trimChars (chars : List Char) :
    trimStartChars (trimChars chars) = trimChars chars := by
  refine trimStartChars_of_head fun c hc => ?_
  obtain ⟨rest, hrest⟩ := trimEndChars_prefix (trimStartChars chars)
  refine @head_trimStartChars chars c ?_
  rw [← hrest]
  simp only [trimChars] at hc
  cases htrim : trimEndChars (trimStartChars chars) with
  | nil => simp [htrim] at hc
  | cons first others => simpa [htrim] using hc

/-- Trimming twice is trimming once. -/
theorem trimChars_trimChars (chars : List Char) :
    trimChars (trimChars chars) = trimChars chars := by
  have hstart := trimStartChars_trimChars chars
  simp only [trimChars] at hstart ⊢
  rw [hstart, trimEndChars_trimEndChars]

/-- Trimming a text twice is trimming it once. -/
theorem trim_trim (text : String) : trim (trim text) = trim text := by
  simp [trim, trimChars_trimChars]

end Ensemble.Text
