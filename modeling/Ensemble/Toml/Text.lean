/-
# Texts and keys of TOML documents

Texts stand between quotes, in which a backslash escapes, or between apostrophes, in which it does
not; three of either hold several lines. A key is a bare word or a text on one line, and keys may
be joined by dots. Every reader answers with what it read and the characters behind it, and
`none` stands for a malformed text.
-/

import Ensemble.Text.Digits

namespace Ensemble.Toml

/-- A space or a tab. -/
def isGap (c : Char) : Bool :=
  c == ' ' || c == '\t'

/-- The characters of a line; no control characters but tabs. -/
def isLineChar (c : Char) : Bool :=
  c == '\t' || (decide (0x20 ≤ c.toNat) && c.toNat != 0x7F)

/-- The characters of bare keys. -/
def isBareChar (c : Char) : Bool :=
  c.isAlphanum || c == '_' || c == '-'

/-- Behind the gaps. -/
def skipGaps (chars : List Char) : List Char :=
  chars.dropWhile isGap

/-- Behind the end of a line, if the line ends here. -/
def lineEnd? : List Char → Option (List Char)
  | '\n' :: rest => some rest
  | '\r' :: '\n' :: rest => some rest
  | _ => none

/-- Behind a comment, if there is one. -/
def skipComment (chars : List Char) : List Char :=
  if chars.head? = some '#' then chars.dropWhile isLineChar else chars

/-- Behind the rest of a line, which holds nothing but a comment. -/
def endLine? (chars : List Char) : Option (List Char) :=
  let rest := skipComment (skipGaps chars)
  if rest.isEmpty then some [] else lineEnd? rest

/-- Behind gaps, comments and line ends. A comment is followed by a line end. -/
def skipLines : Nat → List Char → List Char
  | 0, chars => chars
  | fuel + 1, chars =>
    let rest := skipGaps chars
    match lineEnd? (skipComment rest) with
    | some beyond => skipLines fuel beyond
    | none => rest

/-- What a backslash and one more character stand for. -/
def escape? : Char → Option Char
  | 'b' => some '\x08'
  | 't' => some '\t'
  | 'n' => some '\n'
  | 'f' => some '\x0c'
  | 'r' => some '\r'
  | '"' => some '"'
  | '\\' => some '\\'
  | _ => none

/-- The character that some hexadecimal digits name, and what follows them. -/
def readCode? (count : Nat) (chars : List Char) : Option (Char × List Char) := do
  let digits := chars.take count
  let code ← Text.readHex 0 digits
  if digits.length = count ∧ code.isValidChar then return (Char.ofNat code, chars.drop count)
  else none

/-- Read an escape behind its backslash. -/
def readEscape? : List Char → Option (Char × List Char)
  | 'u' :: rest => readCode? 4 rest
  | 'U' :: rest => readCode? 8 rest
  | c :: rest => do return (← escape? c, rest)
  | [] => none

/-- Read a text up to the closing quote, onto the characters read before, the last first. -/
def readQuoted? : Nat → List Char → List Char → Option (String × List Char)
  | 0, _, _ => none
  | _ + 1, [], _ => none
  | fuel + 1, c :: rest, read =>
    if c = '"' then some (String.ofList read.reverse, rest)
    else if c = '\\' then do
      let (escaped, beyond) ← readEscape? rest
      readQuoted? fuel beyond (escaped :: read)
    else if isLineChar c then readQuoted? fuel rest (c :: read)
    else none

/-- Read a text up to the closing apostrophe. -/
def readLiteral? (chars : List Char) : Option (String × List Char) :=
  let text := chars.takeWhile fun c => isLineChar c && c != '\''
  match chars.drop text.length with
  | '\'' :: rest => some (String.ofList text, rest)
  | _ => none

/-- Behind a line end that stands right at the start of several lines. -/
def skipFirstEnd (chars : List Char) : List Char :=
  (lineEnd? chars).getD chars

/-- Behind gaps and line ends. -/
def skipEmptyLines : Nat → List Char → List Char
  | 0, chars => chars
  | fuel + 1, chars =>
    match lineEnd? (skipGaps chars) with
    | some beyond => skipEmptyLines fuel beyond
    | none => skipGaps chars

/-- Behind an escaped line end and the white space below it, if that is what follows a backslash. -/
def skipEscapedEnd? (chars : List Char) : Option (List Char) := do
  let below ← lineEnd? (skipGaps chars)
  return skipEmptyLines below.length below

/-- The closing quotes of several lines: up to two more belong to the text. -/
def closing? (quote : Char) (chars : List Char) : Option (List Char × List Char) :=
  let count := (chars.takeWhile (· == quote)).length
  if count < 3 then none
  else
    let inside := min (count - 3) 2
    some (List.replicate inside quote, chars.drop (inside + 3))

/-- Read several lines up to the closing quotes, onto the characters read before, the last first. -/
def readLines? (quote : Char) : Nat → List Char → List Char → Option (String × List Char)
  | 0, _, _ => none
  | _ + 1, [], _ => none
  | fuel + 1, c :: rest, read =>
    match closing? quote (c :: rest) with
    | some (inside, beyond) => some (String.ofList ((inside ++ read).reverse), beyond)
    | none =>
      if c = '\\' ∧ quote = '"' then
        match skipEscapedEnd? rest with
        | some beyond => readLines? quote fuel beyond read
        | none => do
          let (escaped, beyond) ← readEscape? rest
          readLines? quote fuel beyond (escaped :: read)
      else
        match lineEnd? (c :: rest) with
        | some beyond => readLines? quote fuel beyond ('\n' :: read)
        | none => if isLineChar c then readLines? quote fuel rest (c :: read) else none

/-- Read a text of one line or of several. -/
def readText? (chars : List Char) : Option (String × List Char) :=
  match chars with
  | '"' :: '"' :: '"' :: rest => readLines? '"' (rest.length + 1) (skipFirstEnd rest) []
  | '\'' :: '\'' :: '\'' :: rest => readLines? '\'' (rest.length + 1) (skipFirstEnd rest) []
  | '"' :: rest => readQuoted? (rest.length + 1) rest []
  | '\'' :: rest => readLiteral? rest
  | _ => none

/-- Read one key. -/
def readSimpleKey? (chars : List Char) : Option (String × List Char) :=
  match chars with
  | '"' :: rest => readQuoted? (rest.length + 1) rest []
  | '\'' :: rest => readLiteral? rest
  | _ =>
    let word := chars.takeWhile isBareChar
    if word.isEmpty then none else some (String.ofList word, chars.drop word.length)

/-- The longest chain of keys. -/
def longestKey : Nat := 79

/-- Read keys joined by dots, at most so many, between gaps. -/
def readKeys? : Nat → List Char → Option (List String × List Char)
  | 0, _ => none
  | count + 1, chars => do
    let (key, rest) ← readSimpleKey? (skipGaps chars)
    match skipGaps rest with
    | '.' :: beyond =>
      let (keys, beyond) ← readKeys? count beyond
      return (key :: keys, beyond)
    | beyond => return ([key], beyond)

/-- Read a key, which is one or more keys joined by dots. -/
def readKey? (chars : List Char) : Option (List String × List Char) :=
  readKeys? longestKey chars

end Ensemble.Toml
