/-!
# The whole part of a double
-/

namespace PocketCalculator

open Float.Model.UnpackedFloat (Sign)

-- Powers of integers and naturals are the core library's, whatever else is imported.
attribute [local instance (high)] instPowNat

/-- The whole part, for a double that is not finite the power of two behind the largest one. What is
no number has no whole part, and counts as zero. -/
def wholePart (x : Float) : Int :=
  let signed : Sign → Nat → Int
    | .positive, n => n
    | .negative, n => -n
  match x.toModel.unpack with
  | .notANumber => 0
  | .infinity s => signed s (2 ^ (1024 : Nat))
  | .zero _ => 0
  | .finite s m e _ => signed s (m * 2 ^ e.toNat / 2 ^ (-e).toNat)

end PocketCalculator
