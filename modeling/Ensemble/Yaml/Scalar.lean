/-
# Scalars of YAML texts

The four ways to write a text: plain, between quotes, and as a block of lines, literal or
folded. Every reader starts in front of the scalar and ends behind it; `none` means that the
scalar is malformed.
-/

import Ensemble.Text.Digits
import Ensemble.Yaml.Cursor

namespace Ensemble.Yaml

/-- How a scalar is written, as far as its meaning depends on it. -/
inductive ScalarStyle where
  | plain
  | literal
  | other
deriving DecidableEq, Repr

/-- A scalar that was read, what follows it, and whether a line ended behind its last word. -/
structure ScalarReading where
  chars : List Char
  beyond : Cursor
  brokenAfter : Bool

/-- Whether the next character, which ends no word, belongs to a plain scalar. -/
def continuesPlain (strictness : Strictness) (inFlow : Bool) (cursor : Cursor) : Bool :=
  if cursor.next = ':' ∧ endsWord strictness (cursor.ahead 1) then false
  else if !inFlow then true
  else if isFlowMark cursor.next then false
  else !(strictness = .strict && cursor.next = ':' && isFlowMark (cursor.ahead 1))

/-- A colon inside brackets that leniently may not stand there. -/
def isMisplacedColon (strictness : Strictness) (inFlow : Bool) (cursor : Cursor) : Bool :=
  strictness = .lenient && inFlow && cursor.next = ':' &&
    (isFlowMark (cursor.ahead 1) || cursor.ahead 1 == '?')

/-- Read one word of a plain scalar, onto the characters read before it, the last first. -/
def readPlainWord (strictness : Strictness) (inFlow : Bool) :
    Nat → Cursor → List Char → Option (List Char × Cursor)
  | 0, cursor, word => some (word, cursor)
  | fuel + 1, cursor, word =>
    if endsWord strictness cursor.next then some (word, cursor)
    else if isMisplacedColon strictness inFlow cursor then none
    else if continuesPlain strictness inFlow cursor then
      readPlainWord strictness inFlow fuel (cursor.skip 1) (cursor.next :: word)
    else some (word, cursor)

/-- Read the words of a plain scalar that is indented to column `limit`, onto the pieces read
before, the last first. -/
def readPlainWords (strictness : Strictness) (inFlow : Bool) (limit : Int) :
    Nat → Cursor → Fold → List (List Char) → Option ScalarReading
  | 0, _, _, _ => none
  | fuel + 1, cursor, fold, pieces =>
    let finished (place : Cursor) (pending : Fold) (read : List (List Char)) : ScalarReading :=
      ⟨read.reverse.flatten, place, pending.broken⟩
    if cursor.atDocumentMark strictness || cursor.next == '#' then
      some (finished cursor fold pieces)
    else if strictness = .strict ∧ inFlow ∧ cursor.next = '-' ∧ isFlowMark (cursor.ahead 1) then
      none
    else do
      let (word, place) ← readPlainWord strictness inFlow (cursor.rest.length + 1) cursor []
      let (pieces, fold) :=
        if word.isEmpty then (pieces, fold)
        else (word.reverse :: fold.chars :: pieces, Fold.none)
      if isGap place.next || isBreak strictness place.next then
        let (beyond, fold) ←
          readFold strictness limit (strictness = .strict) (place.rest.length + 1) place fold
        if !inFlow && (beyond.column : Int) < limit then return finished beyond fold pieces
        else readPlainWords strictness inFlow limit fuel beyond fold pieces
      else return finished place fold pieces

/-- Read a plain scalar inside a block that is indented to column `indent`. -/
def readPlain (strictness : Strictness) (inFlow : Bool) (indent : Int) (cursor : Cursor) :
    Option ScalarReading := do
  if strictness = .strict ∧ inFlow ∧ (cursor.column : Int) < indent + 1 then none
  let reading ← readPlainWords strictness inFlow (indent + 1) (cursor.rest.length + 1) cursor
    Fold.none []
  if reading.chars.isEmpty then none
  return reading

/-- What a backslash and one more character stand for. -/
def escape? : Char → Option Char
  | '0' => some '\x00'
  | 'a' => some '\x07'
  | 'b' => some '\x08'
  | 't' => some '\t'
  | '\t' => some '\t'
  | 'n' => some '\n'
  | 'v' => some '\x0b'
  | 'f' => some '\x0c'
  | 'r' => some '\r'
  | 'e' => some '\x1b'
  | ' ' => some ' '
  | '"' => some '"'
  | '/' => some '/'
  | '\\' => some '\\'
  | 'N' => some '\u0085'
  | '_' => some '\u00a0'
  | 'L' => some '\u2028'
  | 'P' => some '\u2029'
  | _ => none

/-- How many hexadecimal digits follow a backslash and one more character. -/
def escapeDigits? : Char → Option Nat
  | 'x' => some 2
  | 'u' => some 4
  | 'U' => some 8
  | _ => none

/-- Read an escape from its backslash on. -/
def readEscape (cursor : Cursor) : Option (Char × Cursor) :=
  match escapeDigits? (cursor.ahead 1) with
  | some count => do
    let digits := (cursor.rest.drop 2).take count
    let code ← Text.readHex 0 digits
    if digits.length = count ∧ code.isValidChar then
      return (Char.ofNat code, cursor.skip (2 + count))
    else none
  | none => do
    return (← escape? (cursor.ahead 1), cursor.skip 2)

/-- Read one word between quotes, onto the characters read before it, the last first. The flag
says that it ends with an escaped line end. -/
def readQuotedWord (strictness : Strictness) (quote : Char) :
    Nat → Cursor → List Char → Option (List Char × Cursor × Bool)
  | 0, cursor, word => some (word, cursor, false)
  | fuel + 1, cursor, word =>
    if endsWord strictness cursor.next then some (word, cursor, false)
    else if quote = '\'' ∧ cursor.next = quote ∧ cursor.ahead 1 = quote then
      readQuotedWord strictness quote fuel (cursor.skip 2) (quote :: word)
    else if cursor.next = quote then some (word, cursor, false)
    else if quote = '"' ∧ cursor.next = '\\' then
      if isBreak strictness (cursor.ahead 1) then some (word, (cursor.skip 1).skipBreak, true)
      else do
        let (c, beyond) ← readEscape cursor
        readQuotedWord strictness quote fuel beyond (c :: word)
    else readQuotedWord strictness quote fuel (cursor.skip 1) (cursor.next :: word)

/-- Read the words between quotes and the closing quote, onto the pieces read before, the last
first. -/
def readQuotedWords (strictness : Strictness) (indent : Int) (quote : Char) :
    Nat → Cursor → List (List Char) → Option ScalarReading
  | 0, _, _ => none
  | fuel + 1, cursor, pieces =>
    if cursor.atDocumentMark strictness || cursor.next == endMark then none
    else if strictness = .strict ∧ (cursor.column : Int) < indent then none
    else do
      let (word, place, escaped) ←
        readQuotedWord strictness quote (cursor.rest.length + 1) cursor []
      if place.next = quote then
        return ⟨(word.reverse :: pieces).reverse.flatten, place.skip 1, false⟩
      else
        let limit := if strictness = .strict then indent else 0
        let (beyond, fold) ←
          readFold strictness limit false (place.rest.length + 1) place ⟨[], [], [], escaped⟩
        readQuotedWords strictness indent quote fuel beyond (fold.chars :: word.reverse :: pieces)

/-- Whether strictly a quoted scalar that starts on line `line` may be followed by a character. -/
def mayFollowQuote (inFlow : Bool) (line : Nat) (beyond : Cursor) : Bool :=
  if endsLine .strict beyond.next then true
  else if inFlow then
    beyond.next == ',' || beyond.next == '\x7d' || beyond.next == ']' || beyond.next == ':'
  else beyond.next == ':' && beyond.line == line

/-- Read a scalar between quotes inside a block that is indented to column `indent`. -/
def readQuoted (strictness : Strictness) (inFlow : Bool) (indent : Int) (cursor : Cursor) :
    Option ScalarReading := do
  let reading ← readQuotedWords strictness indent cursor.next (cursor.rest.length + 1)
    (cursor.skip 1) []
  match strictness with
  | .lenient => return reading
  | .strict =>
    let beyond ← reading.beyond.skipGaps
    if mayFollowQuote inFlow cursor.line beyond then return { reading with beyond } else none

/-- What happens to the line ends behind a block of lines. -/
inductive Chomping where
  | strip
  | clip
  | keep
deriving DecidableEq, Repr

/-- The chomping that a character asks for. -/
def Chomping.ofChar? : Char → Option Chomping
  | '-' => some .strip
  | '+' => some .keep
  | _ => none

/-- Read what stands between the mark of a block of lines and the end of its line: the chomping
and the indentation, in either order. -/
def readBlockHeader (cursor : Cursor) : Option (Chomping × Nat × Cursor) :=
  let increment (place : Cursor) : Option (Nat × Cursor) :=
    match Text.decimalDigit? place.next with
    | some 0 => none
    | some digit => some (digit, place.skip 1)
    | none => some (0, place)
  match Chomping.ofChar? cursor.next with
  | some chomping => do
    let (digit, beyond) ← increment (cursor.skip 1)
    return (chomping, digit, beyond)
  | none => do
    let (digit, beyond) ← increment cursor
    if digit = 0 then return (.clip, 0, beyond)
    match Chomping.ofChar? beyond.next with
    | some chomping => return (chomping, digit, beyond.skip 1)
    | none => return (.clip, digit, beyond)

/-- Past the indentation, at most to column `limit` if there is one, and past empty lines. Also
the widest indentation and the line ends, the last first. -/
def skipIndentation (strictness : Strictness) (limit : Option Nat) :
    Nat → Cursor → Nat → List Char → Option (Cursor × Nat × List Char)
  | 0, cursor, widest, breaks => some (cursor, widest, breaks)
  | fuel + 1, cursor, widest, breaks =>
    let within (place : Cursor) : Bool :=
      match limit with
      | some column => decide (place.column < column)
      | none => true
    if within cursor && cursor.next == ' ' then
      skipIndentation strictness limit fuel cursor.skipGap widest breaks
    else if strictness = .lenient && within cursor && cursor.next == '\t' then none
    else
      let widest := max widest cursor.column
      if isBreak strictness cursor.next then
        let (lineEnd, beyond) := cursor.takeBreak
        skipIndentation strictness limit fuel beyond widest (lineEnd ++ breaks)
      else some (cursor, widest, breaks)

/-- The lines of a block that were read. -/
structure BlockLines where
  /-- Pieces of the text, the last first. -/
  pieces : List (List Char)
  beyond : Cursor
  /-- The end of the last line. -/
  last : List Char
  /-- The ends of the empty lines behind it. -/
  empty : List Char

/-- Read the lines of a block that is indented to column `indent`. `startsWithGap` is about the
line before. -/
def readBlockLines (strictness : Strictness) (folded : Bool) (indent : Nat) :
    Nat → BlockLines → Bool → Option BlockLines
  | 0, lines, _ => some lines
  | fuel + 1, lines, startsWithGap =>
    let cursor := lines.beyond
    if cursor.column ≠ indent ∨ cursor.next = endMark then some lines
    else if strictness = .strict ∧ indent = 0 ∧ cursor.hasMark .strict '.' then some lines
    else do
      let gap := isGap cursor.next
      let joined :=
        if folded && lines.last == ['\n'] && !startsWithGap && !gap then
          if lines.empty.isEmpty then [' '] else lines.empty
        else lines.last ++ lines.empty
      let (content, place) := cursor.takeWhile fun c => !endsLine strictness c
      let pieces := content :: joined :: lines.pieces
      if place.next = endMark then return ⟨pieces, place, [], []⟩
      let (last, below) := place.takeBreak
      let (beyond, _, empty) ←
        skipIndentation strictness (some indent) (below.rest.length + 1) below 0 []
      readBlockLines strictness folded indent fuel ⟨pieces, beyond, last, empty.reverse⟩ gap

/-- The text of a block whose lines were read. Strictly a last line that the text ends with
counts as ended. -/
def BlockLines.chars (strictness : Strictness) (chomping : Chomping) (indent : Nat)
    (lines : BlockLines) : List Char :=
  let text := lines.pieces.reverse.flatten
  let ended :=
    if strictness = .strict ∧ lines.beyond.next = endMark ∧ max indent 1 ≤ lines.beyond.column
    then ['\n'] else []
  match chomping with
  | .strip => text
  | .clip => text ++ lines.last ++ ended
  | .keep => text ++ lines.last ++ ended ++ lines.empty

/-- The text of a block that strictly has no line at all before the end of the text. -/
def emptyBlock (chomping : Chomping) (header breaks : List Char) : List Char :=
  match chomping with
  | .strip => []
  | .clip => header
  | .keep => if breaks.isEmpty then header else breaks

/-- Read a block of lines, inside a block that is indented to column `indent`. -/
def readBlock (strictness : Strictness) (indent : Int) (cursor : Cursor) :
    Option ScalarReading := do
  let folded := cursor.next == '>'
  let (chomping, increment, place) ← readBlockHeader (cursor.skip 1)
  let place ← match strictness with
    | .strict => place.skipGaps
    | .lenient =>
      let place := place.skipWhile isGap
      some (if place.next = '#' then place.skipLine .lenient else place)
  if !endsLine strictness place.next then none
  let (header, place) := place.takeBreak
  if strictness = .strict ∧ place.next = '\t' then none
  let given : Option Nat := if increment = 0 then none else some ((max indent 0).toNat + increment)
  let (place, widest, breaks) ←
    skipIndentation strictness given (place.rest.length + 1) place 0 []
  let least : Nat := max (indent + 1).toNat (if strictness = .lenient then 1 else 0)
  let column := given.getD (max widest least)
  if strictness = .strict ∧ place.next = endMark then
    return ⟨emptyBlock chomping header breaks.reverse, place, false⟩
  if strictness = .strict ∧ place.column < column ∧ indent < (place.column : Int) then none
  let lines ← readBlockLines strictness folded column (place.rest.length + 1)
    ⟨[], place, [], breaks.reverse⟩ false
  return ⟨lines.chars strictness chomping column, lines.beyond, false⟩

end Ensemble.Yaml
