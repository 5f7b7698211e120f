/-
# Lines of a text

A line ends after its newline or at the end of the text. `inclusive` keeps the newlines, so its
lines concatenate to the text; `lines` drops the newline of each line and one carriage return
before it.
-/

namespace Ensemble.Text

/-- Put a character in front of the first line. -/
def consLine (c : Char) : List (List Char) → List (List Char)
  | [] => [[c]]
  | line :: rest => (c :: line) :: rest

/-- The lines of a text, each with its newline. -/
def inclusiveLines : List Char → List (List Char)
  | [] => []
  | c :: rest =>
    if c = '\n' then ['\n'] :: inclusiveLines rest else consLine c (inclusiveLines rest)

/-- A line without its newline and without one carriage return before that newline. -/
def stripNewline (line : List Char) : List Char :=
  match line.reverse with
  | '\n' :: '\r' :: rest => rest.reverse
  | '\n' :: rest => rest.reverse
  | _ => line

/-- The lines of a text without their ends. -/
def lineChars (chars : List Char) : List (List Char) :=
  (inclusiveLines chars).map stripNewline

/-- The lines of a text without their ends. -/
def lines (text : String) : List String :=
  (lineChars text.toList).map String.ofList

/-- The lines with their newlines concatenate to the text. -/
theorem flatten_inclusiveLines (chars : List Char) : (inclusiveLines chars).flatten = chars := by
  induction chars with
  | nil => rfl
  | cons c rest ih =>
    simp only [inclusiveLines]
    split
    next h => simp [h, ih]
    next =>
      cases hl : inclusiveLines rest with
      | nil => simp_all [consLine]
      | cons line others => simp_all [consLine]

end Ensemble.Text
