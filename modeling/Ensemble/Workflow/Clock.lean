/-
# Clocks and chance

Moments from the seconds that a clock counts since the start of 1970, and identifiers of runs from
bytes of chance.
-/

import Ensemble.Workflow.Moment
import Ensemble.Workflow.RunId

namespace Ensemble

/-- The day so many days later. -/
def Day.later (day : Day) : Nat → Day
  | 0 => day
  | count + 1 => later day.next count

/-- The moment so long after the start of 1970. -/
def Moment.ofClock? (seconds nanoseconds : Nat) : Option Moment :=
  let time : TimeOfDay := ⟨seconds % 86400 / 60, seconds % 60, nanoseconds⟩
  ofLocal? (Day.later ⟨1970, 1, 1⟩ (seconds / 86400)) time 0

/-- Bytes as one number, the first byte counting most. -/
def numberOfBytes (bytes : List UInt8) : Nat :=
  bytes.foldl (fun number byte => number * 256 + byte.toNat) 0

/-- Replace the bits of a number from a position on by those of a smaller one. -/
def withBits (number position width bits : Nat) : Nat :=
  let unit := Nat.pow 2 position
  number - number / unit % Nat.pow 2 width * unit + bits * unit

/-- An identifier of chance, marked as such: its version is four, and its variant is two. -/
def RunId.ofChance (bytes : List UInt8) : RunId :=
  let bits := withBits (withBits (numberOfBytes bytes) 76 4 4) 62 2 2
  ⟨bits % Nat.pow 2 128, Nat.mod_lt _ (by decide)⟩

end Ensemble
