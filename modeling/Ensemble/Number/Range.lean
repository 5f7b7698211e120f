/-
# Ranges of whole numbers

Which integers so many bits hold, with or without a sign.
-/

namespace Ensemble

/-- Whether an integer fits so many bits without a sign. -/
def fitsUnsigned (bits : Nat) (value : Int) : Bool :=
  decide (0 ≤ value) && decide (value < Nat.pow 2 bits)

/-- Whether an integer fits so many bits, of which one is for the sign. -/
def fitsSigned (bits : Nat) (value : Int) : Bool :=
  decide (-(Nat.pow 2 (bits - 1) : Int) ≤ value) && decide (value < Nat.pow 2 (bits - 1))

end Ensemble
