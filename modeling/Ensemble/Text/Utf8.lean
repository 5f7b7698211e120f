/-
# UTF-8

Bytes that are not valid UTF-8 are shown with a replacement character for each longest run
that could have begun a character.
-/

namespace Ensemble.Text

/-- Whether a byte continues a character. -/
def isContinuation (byte : Nat) : Bool :=
  decide (0x80 ≤ byte) && decide (byte ≤ 0xBF)

/-- How many bytes a character takes that starts with this byte, and which second bytes it
allows; `none` for a byte that starts no character. -/
def characterForm (first : Nat) : Option (Nat × Nat × Nat) :=
  if first < 0x80 then some (1, 0, 0)
  else if 0xC2 ≤ first ∧ first ≤ 0xDF then some (2, 0x80, 0xBF)
  else if first = 0xE0 then some (3, 0xA0, 0xBF)
  else if first = 0xED then some (3, 0x80, 0x9F)
  else if 0xE1 ≤ first ∧ first ≤ 0xEF then some (3, 0x80, 0xBF)
  else if first = 0xF0 then some (4, 0x90, 0xBF)
  else if 0xF1 ≤ first ∧ first ≤ 0xF3 then some (4, 0x80, 0xBF)
  else if first = 0xF4 then some (4, 0x80, 0x8F)
  else none

/-- How many of the bytes behind the first one, at most `wanted`, continue its character; the
second byte has to be between `low` and `high`. -/
def continuationLength (wanted low high : Nat) : List Nat → Nat
  | [] => 0
  | byte :: rest =>
    if wanted = 0 then 0
    else if low ≤ byte ∧ byte ≤ high then
      1 + min (wanted - 1) ((rest.takeWhile isContinuation).length)
    else 0

/-- The code point of a character with `first` as its first and `more` as its other bytes. -/
def codePoint (first : Nat) (more : List Nat) : Nat :=
  let start :=
    match more.length with
    | 0 => first
    | 1 => first % 0x20
    | 2 => first % 0x10
    | _ => first % 0x08
  more.foldl (fun code byte => code * 0x40 + byte % 0x40) start

/-- The characters of bytes; `fuel` of at least their number is never used up. -/
def lossyCharsWithin : Nat → List Nat → List Char
  | 0, _ => []
  | _ + 1, [] => []
  | fuel + 1, first :: rest =>
    match characterForm first with
    | none => '\ufffd' :: lossyCharsWithin fuel rest
    | some (size, low, high) =>
      let taken := continuationLength (size - 1) low high rest
      let c := if taken = size - 1 then Char.ofNat (codePoint first (rest.take taken)) else '\ufffd'
      c :: lossyCharsWithin fuel (rest.drop taken)

/-- The text of bytes, with replacement characters where they are not valid. -/
def lossy (bytes : ByteArray) : String :=
  let values := bytes.toList.map UInt8.toNat
  String.ofList (lossyCharsWithin values.length values)

end Ensemble.Text
