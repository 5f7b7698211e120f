/-
# A place in a YAML text

YAML texts are read with two degrees of strictness. Lenient reading breaks lines also at the
Unicode separators and lets tabs, comments and continued lines stand nearly anywhere; strict
reading takes the layout rules literally. A cursor is a place in a text: what follows, and the
line and column, which decide what a word means.
-/

namespace Ensemble.Yaml

/-- How closely a text is held to the layout rules. -/
inductive Strictness where
  | lenient
  | strict
deriving DecidableEq, Repr

/-- The character that stands for the end of a text; no text holds it. -/
def endMark : Char := '\x00'

/-- A space or a tab. -/
def isGap (c : Char) : Bool :=
  c == ' ' || c == '\t'

/-- A character that ends a line. -/
def isBreak : Strictness → Char → Bool
  | .lenient, c =>
    c == '\n' || c == '\r' || c == '\u0085' || c == '\u2028' || c == '\u2029'
  | .strict, c => c == '\n' || c == '\r'

/-- The end of a line or of the text. -/
def endsLine (strictness : Strictness) (c : Char) : Bool :=
  isBreak strictness c || c == endMark

/-- The end of a word: a gap, the end of a line or of the text. -/
def endsWord (strictness : Strictness) (c : Char) : Bool :=
  isGap c || endsLine strictness c

/-- The characters with a meaning inside brackets. -/
def isFlowMark (c : Char) : Bool :=
  c == ',' || c == '[' || c == ']' || c == '\x7b' || c == '\x7d'

/-- The characters of names. -/
def isNameChar (c : Char) : Bool :=
  c.isAlphanum || c == '_' || c == '-'

/-- A place in a text. -/
structure Cursor where
  rest : List Char
  index : Nat
  line : Nat
  column : Nat
  /-- Only gaps precede on the line. -/
  fresh : Bool
deriving Repr

namespace Cursor

/-- The start of a text. -/
def start (chars : List Char) : Cursor :=
  ⟨chars, 0, 0, 0, true⟩

/-- The next character. -/
def next (cursor : Cursor) : Char :=
  cursor.rest.headD endMark

/-- The character after some others. -/
def ahead (cursor : Cursor) (count : Nat) : Char :=
  (cursor.rest.drop count).headD endMark

/-- The place some characters further on in the line. -/
def move (cursor : Cursor) (count : Nat) (fresh : Bool) : Cursor :=
  ⟨cursor.rest.drop count, cursor.index + count, cursor.line, cursor.column + count, fresh⟩

/-- Past some characters that are no gaps. -/
def skip (cursor : Cursor) (count : Nat) : Cursor :=
  cursor.move count false

/-- Past one gap. -/
def skipGap (cursor : Cursor) : Cursor :=
  cursor.move 1 cursor.fresh

/-- The next characters with a property, and the place behind them. -/
def takeWhile (cursor : Cursor) (property : Char → Bool) : List Char × Cursor :=
  let taken := cursor.rest.takeWhile property
  (taken, cursor.move taken.length (cursor.fresh && taken.all isGap))

/-- Past the next characters with a property. -/
def skipWhile (cursor : Cursor) (property : Char → Bool) : Cursor :=
  (cursor.takeWhile property).2

/-- To the end of the line. -/
def skipLine (cursor : Cursor) (strictness : Strictness) : Cursor :=
  cursor.skipWhile fun c => !endsLine strictness c

/-- Past the end of the line, and what that end is in a text. The Unicode separators stay what
they are; every other end is a newline. -/
def takeBreak (cursor : Cursor) : List Char × Cursor :=
  let beyond (count : Nat) : Cursor :=
    ⟨cursor.rest.drop count, cursor.index + count, cursor.line + 1, 0, true⟩
  match cursor.rest with
  | [] => ([], cursor)
  | '\r' :: '\n' :: _ => (['\n'], beyond 2)
  | '\u2028' :: _ => (['\u2028'], beyond 1)
  | '\u2029' :: _ => (['\u2029'], beyond 1)
  | _ :: _ => (['\n'], beyond 1)

/-- Past the end of the line. -/
def skipBreak (cursor : Cursor) : Cursor :=
  cursor.takeBreak.2

/-- Whether three equal characters stand at the start of a line, as a word of their own. -/
def hasMark (cursor : Cursor) (strictness : Strictness) (mark : Char) : Bool :=
  cursor.column == 0 && cursor.next == mark && cursor.ahead 1 == mark && cursor.ahead 2 == mark &&
    endsWord strictness (cursor.ahead 3)

/-- Whether a document starts or ends here. -/
def atDocumentMark (cursor : Cursor) (strictness : Strictness) : Bool :=
  cursor.hasMark strictness '-' || cursor.hasMark strictness '.'

/-- Past gaps and a comment. A strict comment follows a gap; the flags say whether there was a
space and whether there was a tab. -/
def skipGapsWithin (tabs : Bool) : Nat → Cursor → Bool → Bool → Option (Cursor × Bool × Bool)
  | 0, cursor, spaced, tabbed => some (cursor, spaced, tabbed)
  | fuel + 1, cursor, spaced, tabbed =>
    if cursor.next = ' ' then skipGapsWithin tabs fuel cursor.skipGap true tabbed
    else if cursor.next = '\t' ∧ tabs then skipGapsWithin tabs fuel cursor.skipGap spaced true
    else if cursor.next = '#' then
      if spaced || tabbed then some (cursor.skipLine .strict, spaced, tabbed) else none
    else some (cursor, spaced, tabbed)

/-- Strictly past gaps and a comment to the end of the line or the next word. -/
def skipGaps (cursor : Cursor) : Option Cursor :=
  (skipGapsWithin true (cursor.rest.length + 1) cursor false false).map Prod.fst

end Cursor

/-- The white space between two words of one scalar: gaps within a line, or the first line end
and the further ones. -/
structure Fold where
  gaps : List Char
  first : List Char
  further : List Char
  broken : Bool
deriving Repr

namespace Fold

/-- No white space. -/
def none : Fold := ⟨[], [], [], false⟩

/-- What it becomes: gaps stay, one line end becomes a space, and of several the first goes. -/
def chars (fold : Fold) : List Char :=
  if fold.broken then
    if fold.first = ['\n'] then
      if fold.further.isEmpty then [' '] else fold.further
    else fold.first ++ fold.further
  else fold.gaps

end Fold

/-- Read white space inside a scalar. A tab before column `limit` of a further line is refused,
unless empty lines may hold it. -/
def readFold (strictness : Strictness) (limit : Int) (emptyLines : Bool) :
    Nat → Cursor → Fold → Option (Cursor × Fold)
  | 0, cursor, fold => some (cursor, fold)
  | fuel + 1, cursor, fold =>
    if isGap cursor.next then
      if !fold.broken then
        readFold strictness limit emptyLines fuel cursor.skipGap
          { fold with gaps := fold.gaps ++ [cursor.next] }
      else if cursor.next = '\t' ∧ (cursor.column : Int) < limit then
        if emptyLines then
          match cursor.skipGaps with
          | some beyond =>
            if endsLine strictness beyond.next then
              readFold strictness limit emptyLines fuel beyond fold
            else .none
          | .none => .none
        else .none
      else readFold strictness limit emptyLines fuel cursor.skipGap fold
    else if isBreak strictness cursor.next then
      let (lineEnd, beyond) := cursor.takeBreak
      if fold.broken then
        readFold strictness limit emptyLines fuel beyond
          { fold with further := fold.further ++ lineEnd }
      else
        readFold strictness limit emptyLines fuel beyond ⟨[], lineEnd, fold.further, true⟩
    else some (cursor, fold)

end Ensemble.Yaml
