/-
# YAML tokens

The words of a YAML text: scalars, the marks of lists and records, and the starts and ends of
blocks, which the indentation tells. A key is recognised only by the colon behind it, so its
token is put in front of what was read already.
-/

import Ensemble.Yaml.Scalar

namespace Ensemble.Yaml

/-- A word of a YAML text. -/
inductive Token where
  | version (major minor : Nat)
  | handle (name stem : String)
  | unknownDirective
  | documentStart
  | documentEnd
  | blockList
  | blockRecord
  | blockEnd
  | openList
  | closeList
  | openRecord
  | closeRecord
  | item
  | comma
  | key
  | value
  | alias (name : String)
  | anchor (name : String)
  | tag (handle suffix : String)
  | scalar (text : String) (style : ScalarStyle)
deriving DecidableEq, Repr

/-- A level of indentation. A level that is no block only keeps what belongs to a value right of
its key. -/
structure Level where
  column : Nat
  isBlock : Bool
deriving DecidableEq, Repr

/-- A place where a key may have started. -/
structure Candidate where
  /-- Nothing but a key may start there. -/
  isRequired : Bool
  /-- How many tokens precede. -/
  number : Nat
  index : Nat
  line : Nat
  column : Nat
deriving DecidableEq, Repr

/-- Brackets that are open. -/
inductive Bracket where
  | list
  | record
deriving DecidableEq, Repr

/-- What was read of a text. -/
structure Scan where
  strictness : Strictness
  cursor : Cursor
  tokens : Array Token
  /-- The open blocks, the innermost first. -/
  levels : List Level
  /-- The open brackets, the innermost first. -/
  brackets : List Bracket
  /-- The candidate for a key inside each open bracket, and last the one outside of all. -/
  candidates : List (Option Candidate)
  /-- A key may start here. -/
  keyAllowed : Bool
  /-- The place where a colon needs no gap behind it. -/
  adjacent : Option Nat

namespace Scan

/-- Nothing is read yet. -/
def start (strictness : Strictness) (chars : List Char) : Scan :=
  ⟨strictness, .start chars, #[], [], [], [none], true, none⟩

/-- Inside brackets. -/
def inFlow (scan : Scan) : Bool :=
  !scan.brackets.isEmpty

/-- The column to which the innermost block is indented; outside of all blocks left of all. -/
def indent (scan : Scan) : Int :=
  match scan.levels with
  | level :: _ => level.column
  | [] => -1

/-- The scan with one more token. -/
def push (scan : Scan) (token : Token) : Scan :=
  { scan with tokens := scan.tokens.push token }

/-- The scan with a token in front of those from a number on. -/
def insert (scan : Scan) (number : Nat) (token : Token) : Scan :=
  { scan with
    tokens := scan.tokens.extract 0 number ++ #[token] ++
      scan.tokens.extract number scan.tokens.size }

/-- Leave the blocks right of a column. -/
def leaveBlocks (scan : Scan) (column : Int) : Scan :=
  if scan.inFlow then scan
  else
    let isLeft (level : Level) : Bool := decide (column < (level.column : Int))
    let ended := (scan.levels.takeWhile isLeft).countP Level.isBlock
    { scan with
      levels := scan.levels.dropWhile isLeft
      tokens := scan.tokens ++ (Array.replicate ended Token.blockEnd) }

/-- Enter a block at a column, unless it is open already; its token stands before those from
`number` on. -/
def enterBlock (scan : Scan) (column : Nat) (number : Nat) (token : Token) : Scan :=
  if scan.inFlow then scan
  else
    let levels :=
      match scan.levels with
      | level :: outer => if !level.isBlock && level.column ≤ column then outer else level :: outer
      | [] => []
    let scan := { scan with levels }
    if scan.indent < (column : Int) then
      { scan.insert number token with levels := ⟨column, true⟩ :: levels }
    else scan

/-- Strictly, what follows belongs right of the innermost block. -/
def reserveColumn (scan : Scan) : Scan :=
  match scan.strictness, scan.inFlow, scan.levels with
  | .strict, false, ⟨column, true⟩ :: outer =>
    { scan with levels := ⟨column + 1, false⟩ :: ⟨column, true⟩ :: outer }
  | _, _, _ => scan

/-- Leave the levels that are no blocks. -/
def leaveReserved (scan : Scan) : Scan :=
  { scan with levels := scan.levels.dropWhile fun level => !level.isBlock }

/-- A key may have started here. -/
def markCandidate (scan : Scan) : Scan :=
  if scan.keyAllowed then
    let isRequired := !scan.inFlow && scan.indent == (scan.cursor.column : Int) &&
      (scan.levels.head?.any Level.isBlock)
    let candidate : Candidate :=
      ⟨isRequired, scan.tokens.size, scan.cursor.index, scan.cursor.line, scan.cursor.column⟩
    { scan with candidates := some candidate :: scan.candidates.drop 1 }
  else scan

/-- The candidate inside the innermost bracket. -/
def candidate? (scan : Scan) : Option Candidate :=
  scan.candidates.head?.join

/-- The candidate inside the innermost bracket is no key. -/
def dropCandidate (scan : Scan) : Option Scan :=
  if (scan.candidate?.any Candidate.isRequired) then none
  else some { scan with candidates := none :: scan.candidates.drop 1 }

/-- A candidate is given up when its line is over or too long. Strictly that does not hold inside
brackets. -/
def dropStale (scan : Scan) : Option Scan :=
  let isStale (candidate : Candidate) : Bool :=
    !(scan.strictness = .strict && scan.inFlow) &&
      (decide (candidate.line < scan.cursor.line) ||
        decide (candidate.index + 1024 < scan.cursor.index))
  let kept (candidate : Option Candidate) : Option Candidate :=
    candidate.filter fun candidate => !isStale candidate
  if scan.candidates.any fun candidate =>
      candidate.any fun candidate => candidate.isRequired && isStale candidate
  then none
  else some { scan with candidates := scan.candidates.map kept }

/-- Leniently to the next word: past gaps, comments and line ends. A tab does not stand where a
key may start outside of brackets. -/
def toNextWordLenient : Nat → Scan → Scan
  | 0, scan => scan
  | fuel + 1, scan =>
    let tabs := scan.inFlow || !scan.keyAllowed
    let place := scan.cursor.skipWhile fun c => c == ' ' || (tabs && c == '\t')
    let place := if place.next = '#' then place.skipLine .lenient else place
    if isBreak .lenient place.next then
      toNextWordLenient fuel
        { scan with cursor := place.skipBreak, keyAllowed := scan.keyAllowed || !scan.inFlow }
    else { scan with cursor := place }

/-- Strictly to the next word. A tab does not indent what stands in a block. -/
def toNextWordStrict : Nat → Scan → Option Scan
  | 0, scan => some scan
  | fuel + 1, scan =>
    let place := scan.cursor
    if place.next = '\t' ∧ !scan.levels.isEmpty ∧ place.fresh ∧ (place.column : Int) < scan.indent
    then
      match place.skipGaps with
      | some beyond =>
        if endsLine .strict beyond.next then
          toNextWordStrict fuel { scan with cursor := beyond }
        else none
      | none => none
    else if isGap place.next then toNextWordStrict fuel { scan with cursor := place.skipGap }
    else if isBreak .strict place.next then
      toNextWordStrict fuel
        { scan with cursor := place.skipBreak, keyAllowed := scan.keyAllowed || !scan.inFlow }
    else if place.next = '#' then
      toNextWordStrict fuel { scan with cursor := place.skipLine .strict }
    else some scan

/-- To the next word. -/
def toNextWord (scan : Scan) : Option Scan :=
  let fuel := scan.cursor.rest.length + 1
  match scan.strictness with
  | .lenient => some (toNextWordLenient fuel scan)
  | .strict => toNextWordStrict fuel scan

/-- Leave all blocks, at the start or end of a document. -/
def leaveDocument (scan : Scan) : Option Scan := do
  let scan ← (scan.leaveBlocks (-1)).dropCandidate
  return { scan with keyAllowed := false }

/-- The cursor behind a mark; strictly also behind the gaps and the comment after it. -/
def pastMark (scan : Scan) : Option Cursor :=
  match scan.strictness with
  | .lenient => some (scan.cursor.skip 1)
  | .strict => (scan.cursor.skip 1).skipGaps

/-- An opening bracket. -/
def readOpening (scan : Scan) (bracket : Bracket) (token : Token) : Option Scan := do
  let scan := scan.markCandidate.reserveColumn
  if scan.strictness = .strict ∧ scan.brackets.length = 255 then none
  let cursor ← scan.pastMark
  return { scan.push token with
    cursor
    brackets := bracket :: scan.brackets
    candidates := none :: scan.candidates
    keyAllowed := true }

/-- A closing bracket. -/
def readClosing (scan : Scan) (token : Token) : Option Scan := do
  let scan ← scan.dropCandidate
  let cursor ← scan.pastMark
  let inner := scan.brackets.drop 1
  return { scan.push token with
    cursor
    brackets := inner
    candidates := if scan.inFlow then scan.candidates.drop 1 else scan.candidates
    keyAllowed := false
    adjacent := if scan.strictness = .strict ∧ !inner.isEmpty then some cursor.index
      else scan.adjacent }

/-- A comma. -/
def readComma (scan : Scan) : Option Scan := do
  let scan ← scan.dropCandidate
  let cursor ← scan.pastMark
  return { scan.push .comma with cursor, keyAllowed := true }

/-- Strictly, the dash of an item is followed by its value on the same line, or by nothing. -/
def afterDash (scan : Scan) : Option Scan := do
  let limit := scan.cursor.rest.length + 1
  let (cursor, _, tabbed) ← scan.cursor.skipGapsWithin true limit false false
  if tabbed ∧ cursor.next = '-' ∧ endsWord .strict (cursor.ahead 1) then none
  let scan := { scan with cursor }
  if isBreak .strict cursor.next || isFlowMark cursor.next then return scan.reserveColumn
  else return scan

/-- The dash of an item of a block. -/
def readDash (scan : Scan) : Option Scan := do
  let scan ←
    if !scan.inFlow then
      if scan.keyAllowed then
        some (scan.enterBlock scan.cursor.column scan.tokens.size .blockList)
      else none
    else if scan.strictness = .strict then none else some scan
  let scan := { scan with cursor := scan.cursor.skip 1 }
  let scan ← if scan.strictness = .strict then scan.afterDash else some scan
  let scan ← scan.dropCandidate
  return { scan.push .item with keyAllowed := true }

/-- Strictly, the mark of a key is followed by white space, which no tab ends. -/
def afterKeyMark : Nat → Scan → Bool → Option Scan
  | 0, scan, _ => some scan
  | fuel + 1, scan, spaced =>
    let place := scan.cursor
    if place.next = ' ' then afterKeyMark fuel { scan with cursor := place.skipGap } true
    else if isBreak .strict place.next then
      afterKeyMark fuel
        { scan with cursor := place.skipBreak, keyAllowed := scan.keyAllowed || !scan.inFlow } true
    else if place.next = '#' then
      afterKeyMark fuel { scan with cursor := place.skipLine .strict } spaced
    else if spaced ∧ place.next ≠ '\t' then some scan
    else none

/-- The mark of a key. -/
def readKeyMark (scan : Scan) : Option Scan := do
  let scan ←
    if scan.inFlow then some scan
    else if scan.keyAllowed then
      some (scan.enterBlock scan.cursor.column scan.tokens.size .blockRecord)
    else none
  let scan ← scan.dropCandidate
  let scan := { scan with cursor := scan.cursor.skip 1, keyAllowed := !scan.inFlow }
  let scan ←
    match scan.strictness with
    | .lenient => some scan
    | .strict => scan.afterKeyMark (scan.cursor.rest.length + 1) false
  return scan.push .key

/-- Strictly, a tab alone does not separate a colon from a word. -/
def afterColon (scan : Scan) : Option Scan :=
  if scan.strictness = .strict ∧ scan.cursor.next = '\t' then do
    let (cursor, spaced, _) ←
      scan.cursor.skipGapsWithin true (scan.cursor.rest.length + 1) false false
    if !spaced && (cursor.next == '-' || isNameChar cursor.next) then none
    return { scan with cursor }
  else some scan

/-- A colon: what its candidate marks is a key. Strictly, a key in a list is on the same line. -/
def readColon (scan : Scan) : Option Scan := do
  let column := scan.cursor.column
  let line := scan.cursor.line
  let candidate := scan.candidate?
  let scan ← { scan with cursor := scan.cursor.skip 1 }.afterColon
  match candidate with
  | some key =>
    if scan.strictness = .strict ∧ scan.brackets.head? = some .list ∧ key.line < line then none
    let scan := scan.insert key.number .key
    let scan := (scan.enterBlock key.column key.number .blockRecord).reserveColumn
    return { scan.push .value with
      candidates := none :: scan.candidates.drop 1
      keyAllowed := false }
  | none =>
    if scan.inFlow then return { scan.push .value with keyAllowed := false }
    else if scan.keyAllowed then
      let scan := (scan.enterBlock column scan.tokens.size .blockRecord).reserveColumn
      return { scan.push .value with keyAllowed := true }
    else none

/-- An anchor or an alias. -/
def readName (scan : Scan) (token : String → Token) : Option Scan :=
  let scan := scan.markCandidate
  let (name, cursor) := (scan.cursor.skip 1).takeWhile fun c =>
    match scan.strictness with
    | .lenient => isNameChar c
    | .strict => !endsWord .strict c && !isFlowMark c && c != '\uFEFF'
  let c := cursor.next
  let ends := scan.strictness = .strict || endsWord .lenient c || c == '?' || c == ':' ||
    c == ',' || c == ']' || c == '\x7d' || c == '%' || c == '@' || c == '\x60'
  if name.isEmpty || !ends then none
  else some { scan.push (token (String.ofList name)) with cursor, keyAllowed := false }

/-- The characters of a tag behind its handle. -/
def isTagChar (strictness : Strictness) (c : Char) : Bool :=
  isNameChar c || ";/?:@&=+$.~*'()%".toList.contains c ||
    c == (if strictness = .strict then '#' else '!')

/-- The characters of a tag without a handle. -/
def isWholeTagChar (c : Char) : Bool :=
  isTagChar .strict c || c == '!' || c == ',' || c == '[' || c == ']'

/-- Replace the escapes of ASCII characters; `none` when one is malformed. -/
def unescapeTag : List Char → Option (List Char)
  | [] => some []
  | '%' :: a :: b :: rest => do
    let code ← Text.readHex 0 [a, b]
    if code < 128 then return Char.ofNat code :: (← unescapeTag rest) else none
  | '%' :: _ => none
  | c :: rest => do return c :: (← unescapeTag rest)

/-- The handle and the suffix of a tag from its mark on, and the place behind it. -/
def takeTag (strictness : Strictness) (cursor : Cursor) :
    Option (List Char × List Char × Cursor) := do
  if cursor.ahead 1 = '<' then
    let (suffix, beyond) := (cursor.skip 2).takeWhile isWholeTagChar
    if suffix.isEmpty || beyond.next != '>' then none
    return ([], ← unescapeTag suffix, beyond.skip 1)
  else
    let (name, place) := (cursor.skip 1).takeWhile isNameChar
    if place.next = '!' then
      let (suffix, beyond) := (place.skip 1).takeWhile (isTagChar strictness)
      if suffix.isEmpty then none
      return ('!' :: name ++ ['!'], ← unescapeTag suffix, beyond)
    else
      let (more, beyond) := place.takeWhile (isTagChar strictness)
      let suffix ← unescapeTag (name ++ more)
      return if suffix.isEmpty then ([], ['!'], beyond) else (['!'], suffix, beyond)

/-- A tag. -/
def readTag (scan : Scan) : Option Scan := do
  let scan := scan.markCandidate
  let (handle, suffix, cursor) ← takeTag scan.strictness scan.cursor
  let ends := endsWord scan.strictness cursor.next || scan.inFlow &&
    (cursor.next == ',' || scan.strictness = .strict && isFlowMark cursor.next)
  if !ends then none
  return { scan.push (.tag (String.ofList handle) (String.ofList suffix)) with
    cursor, keyAllowed := false }

/-- A scalar that was read. -/
def pushScalar (scan : Scan) (style : ScalarStyle) (reading : ScalarReading) (keyAllowed : Bool) :
    Scan :=
  { scan.push (.scalar (String.ofList reading.chars) style) with
    cursor := reading.beyond
    keyAllowed := keyAllowed || reading.brokenAfter }

/-- A plain scalar. -/
def readPlainScalar (scan : Scan) : Option Scan := do
  let scan := scan.markCandidate.leaveReserved
  let reading ← readPlain scan.strictness scan.inFlow scan.indent scan.cursor
  return scan.pushScalar .plain reading false

/-- A scalar between quotes. Strictly, a colon right behind it needs no gap. -/
def readQuotedScalar (scan : Scan) : Option Scan := do
  let scan := scan.markCandidate
  let reading ← readQuoted scan.strictness scan.inFlow scan.indent scan.cursor
  let scan := scan.pushScalar .other reading false
  match scan.strictness with
  | .lenient => return scan
  | .strict =>
    let scan ← scan.toNextWord
    return { scan with adjacent := some scan.cursor.index }

/-- A block of lines. -/
def readBlockScalar (scan : Scan) : Option Scan := do
  let style := if scan.cursor.next = '|' then ScalarStyle.literal else ScalarStyle.other
  let scan ←
    match scan.strictness with
    | .lenient => scan.dropCandidate
    | .strict => some scan.markCandidate.leaveReserved
  let reading ← readBlock scan.strictness scan.indent scan.cursor
  return scan.pushScalar style reading true

/-- A whole number of a version. -/
def takeNumber (cursor : Cursor) : Option (Nat × Cursor) :=
  let (digits, beyond) := cursor.takeWhile Char.isDigit
  if digits.isEmpty || 9 < digits.length then none
  else some (digits.foldl (fun number c => number * 10 + (c.toNat - '0'.toNat)) 0, beyond)

/-- The directive of a line that starts with a percent sign. -/
def takeDirective (strictness : Strictness) (cursor : Cursor) : Option (Token × Cursor) := do
  let (name, place) := (cursor.skip 1).takeWhile isNameChar
  let argument := place.skipWhile isGap
  if name.isEmpty || !endsWord strictness place.next then none
  if name = ['Y', 'A', 'M', 'L'] then
    let (major, point) ← takeNumber argument
    if point.next ≠ '.' then none
    let (minor, beyond) ← takeNumber (point.skip 1)
    return (.version major minor, beyond)
  else if name = ['T', 'A', 'G'] then
    if argument.next ≠ '!' then none
    let (word, second) := (argument.skip 1).takeWhile isNameChar
    let handle := if second.next = '!' then '!' :: word ++ ['!'] else ['!']
    let gap := second.skip (if second.next = '!' then 1 else 0)
    if second.next ≠ '!' ∧ !word.isEmpty then none
    if !isGap gap.next then none
    let (stem, beyond) := (gap.skipWhile isGap).takeWhile isWholeTagChar
    if stem.isEmpty || !endsWord strictness beyond.next then none
    return (.handle (String.ofList handle) (String.ofList (← unescapeTag stem)), beyond)
  else if strictness = .strict then return (.unknownDirective, place.skipLine .strict)
  else none

/-- A directive and the end of its line. -/
def readDirective (scan : Scan) : Option Scan := do
  let scan ← scan.leaveDocument
  let (token, cursor) ← takeDirective scan.strictness scan.cursor
  let cursor ← match scan.strictness with
    | .strict => cursor.skipGaps
    | .lenient =>
      let place := cursor.skipWhile isGap
      some (if place.next = '#' then place.skipLine .lenient else place)
  if !endsLine scan.strictness cursor.next then none
  if scan.strictness = .strict ∧ cursor.next = endMark then return { scan.push token with cursor }
  return { scan.push token with cursor := cursor.skipBreak }

/-- The start or end of a document. Strictly, nothing else stands on the line of an end. -/
def readDocumentMark (scan : Scan) : Option Scan := do
  let scan ← scan.leaveDocument
  let isEnd := scan.cursor.next == '.'
  let scan := { scan.push (if isEnd then .documentEnd else .documentStart) with
    cursor := scan.cursor.skip 3 }
  if isEnd && scan.strictness == .strict then
    let cursor ← scan.cursor.skipGaps
    if endsLine .strict cursor.next then some { scan with cursor } else none
  else some scan

/-- Whether a colon here separates a key from its value. -/
def isSeparator (scan : Scan) : Bool :=
  let behind := scan.cursor.ahead 1
  endsWord scan.strictness behind ||
    match scan.strictness with
    | .lenient => scan.inFlow
    | .strict =>
      scan.inFlow && (isFlowMark behind || scan.adjacent == some scan.cursor.index)

/-- Strictly, a separator inside brackets is not followed by an opening bracket, unless it may
stand right behind its key. -/
def isBadSeparator (scan : Scan) : Bool :=
  scan.strictness = .strict && scan.inFlow && scan.adjacent != some scan.cursor.index &&
    (scan.cursor.ahead 1 == '[' || scan.cursor.ahead 1 == '\x7b')

/-- Whether a plain scalar may start with the next character, which starts no other word. -/
def startsPlain (scan : Scan) : Bool :=
  let c := scan.cursor.next
  match scan.strictness with
  | .strict => c != '%' && c != '@' && c != '\x60'
  | .lenient =>
    if c = '-' then !isGap (scan.cursor.ahead 1)
    else if c = '?' ∨ c = ':' then !scan.inFlow
    else !endsWord .lenient c && c != '|' && c != '>' && c != '%' && c != '@' && c != '\x60'

/-- Read one word from its first character on. -/
def readWord (scan : Scan) : Option Scan :=
  let c := scan.cursor.next
  let alone := endsWord scan.strictness (scan.cursor.ahead 1)
  if c = '[' then scan.readOpening .list .openList
  else if c = '\x7b' then scan.readOpening .record .openRecord
  else if c = ']' then scan.readClosing .closeList
  else if c = '\x7d' then scan.readClosing .closeRecord
  else if c = ',' then scan.readComma
  else if c = '-' ∧ alone then scan.readDash
  else if c = '?' ∧ (alone ∨ scan.strictness = .lenient ∧ scan.inFlow) then scan.readKeyMark
  else if c = ':' ∧ scan.isSeparator then
    if scan.isBadSeparator then none else scan.readColon
  else if c = '*' then scan.readName .alias
  else if c = '&' then scan.readName .anchor
  else if c = '!' then scan.readTag
  else if (c = '|' ∨ c = '>') ∧ !scan.inFlow then scan.readBlockScalar
  else if c = '\'' ∨ c = '"' then scan.readQuotedScalar
  else if scan.startsPlain then scan.readPlainScalar
  else none

/-- The end of the text. -/
def finish (scan : Scan) : Option Scan := do
  if scan.candidates.any fun candidate => candidate.any Candidate.isRequired then none
  (scan.leaveBlocks (-1)).dropCandidate

/-- Read the words of a text, each of at least one character. -/
def readWords : Nat → Scan → Option Scan
  | 0, scan => some scan
  | fuel + 1, scan => do
    let scan ← scan.toNextWord
    let scan ← scan.dropStale
    let scan := scan.leaveBlocks scan.cursor.column
    if scan.cursor.next = endMark then scan.finish
    else if scan.cursor.column = 0 ∧ scan.cursor.next = '%' then
      readWords fuel (← scan.readDirective)
    else if scan.cursor.atDocumentMark scan.strictness then
      readWords fuel (← scan.readDocumentMark)
    else if scan.strictness = .strict ∧ (scan.cursor.column : Int) < scan.indent then none
    else readWords fuel (← scan.readWord)

end Scan

/-- The characters that lenient texts are made of. -/
def isReadable (c : Char) : Bool :=
  c == '\t' || c == '\n' || c == '\r' || c == '\u0085' ||
    (decide (0x20 ≤ c.toNat) && decide (c.toNat ≤ 0x7E)) ||
    (decide (0xA0 ≤ c.toNat) && c.toNat != 0xFFFE && c.toNat != 0xFFFF)

/-- The characters of a text that are read. A lenient text may start with a byte order mark and
holds nothing unreadable; a strict text ends at the first null character. -/
def sourceChars (strictness : Strictness) (chars : List Char) : Option (List Char) :=
  match strictness with
  | .lenient =>
    if chars.all isReadable then
      some (if chars.head? = some '\uFEFF' then chars.drop 1 else chars)
    else none
  | .strict => some (chars.takeWhile (· != endMark))

/-- The words of a text, or `none` when it is malformed. -/
def tokens? (strictness : Strictness) (chars : List Char) : Option (List Token) := do
  let source ← sourceChars strictness chars
  let scan ← (Scan.start strictness source).readWords (source.length + 1)
  return scan.tokens.toList

end Ensemble.Yaml
