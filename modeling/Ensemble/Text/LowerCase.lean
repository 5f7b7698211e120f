/-
# Lower case

The lower-case form of a text, letter by letter, with the two rules that look further than one
letter: a dotted capital I keeps its dot as a mark of its own, and a capital sigma at the end
of a word takes its final form.
-/

import Ensemble.Text.CaseTable

namespace Ensemble.Text

/-- The offset of the run that holds a code point, zero for a code point in none. -/
def lowerCaseOffset (code : Nat) : Int :=
  match lowerCaseRuns.find? fun run =>
      decide (run.first ≤ code) && decide (code ≤ run.last) &&
        (code - run.first) % run.stride == 0 with
  | some run => run.offset
  | none => 0

/-- The lower-case form of one character. -/
def lowerCaseChar (c : Char) : List Char :=
  if c = 'İ' then ['i', '\u0307']
  else [Char.ofNat (Int.toNat (c.toNat + lowerCaseOffset c.toNat))]

/-- The first character that is not passed over is a cased letter. -/
def nextIsCased (chars : List Char) : Bool :=
  match chars.dropWhile fun c => inRanges caseIgnorableRanges c.toNat with
  | c :: _ => inRanges casedRanges c.toNat
  | [] => false

/-- A capital sigma is final when a letter stands before it and none after it. -/
def lowerCaseSigma (before after : List Char) : Char :=
  if nextIsCased before && !nextIsCased after then 'ς' else 'σ'

/-- The lower-case form of `chars`, which follow the characters `before`, nearest first. -/
def lowerCaseChars (before : List Char) : List Char → List Char
  | [] => []
  | c :: rest =>
    (if c = 'Σ' then [lowerCaseSigma before rest] else lowerCaseChar c) ++
      lowerCaseChars (c :: before) rest

/-- The lower-case form of a text. -/
def lowerCase (text : String) : String :=
  String.ofList (lowerCaseChars [] text.toList)

end Ensemble.Text
