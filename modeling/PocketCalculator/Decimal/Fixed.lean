import PocketCalculator.Decimal.Natural
import PocketCalculator.Decimal.Rounding

/-!
# Decimal fractions and how a number is displayed

A displayed number is rounded to a given count of places after the point. Its text has no zeros at
the end of the fraction, no point without a fraction, and no sign in front of zero. `trimmedText`
writes all places first and then takes these away; `numberText` does not write them in the first
place.
-/

namespace PocketCalculator

open Float.Model (UnpackedFloat)
open Float.Model.UnpackedFloat (Sign)

-- Powers of integers and naturals are the core library's, whatever else is imported.
attribute [local instance (high)] instPowNat

/-! ## Decimal fractions -/

/-- The number `± unscaled / 10 ^ places`. -/
structure Decimal where
  negative : Bool
  unscaled : Nat
  places : Nat
deriving DecidableEq

namespace Decimal

/-- The digits of `f / 10 ^ places`, for `f < 10 ^ places`, up to the last one that is not zero. -/
def fraction : (places f : Nat) → List Digit
  | 0, _ => []
  | k + 1, f =>
    if f = 0 then []
    else ⟨f / 10 ^ k % 10, Nat.mod_lt _ (by decide)⟩ :: fraction k (f % 10 ^ k)

def sign (d : Decimal) : List Char :=
  if d.negative && d.unscaled != 0 then ['-'] else []

def whole (d : Decimal) : List Char :=
  (Numeral.ofNat (d.unscaled / 10 ^ d.places)).digits.map Digit.toChar

def point (d : Decimal) : List Char :=
  match fraction d.places (d.unscaled % 10 ^ d.places) with
  | [] => []
  | ds => '.' :: ds.map Digit.toChar

def text (d : Decimal) : String :=
  String.ofList (d.sign ++ d.whole ++ d.point)

/-- The multiple of `10 ^ -places` nearest to `± m * 2 ^ e`, ties to even. -/
def rounded (s : Sign) (m : Nat) (e : Int) (places : Nat) : Decimal where
  negative := s == .negative
  unscaled := roundDiv (m * 2 ^ e.toNat * 10 ^ places) (2 ^ (-e).toNat)
  places

/-- The same number. One with `k` binary places has at most `k` decimal places, so no more than
those are computed. -/
def ofBinary (s : Sign) (m : Nat) (e : Int) (places : Nat) : Decimal :=
  rounded s m e (min places (-e).toNat)

end Decimal

/-! ## Display of a double -/

/-- How many places after the point are shown unless a count is given. -/
def displayPlaces : Nat := 10

/-- The text of a double with at most `places` digits after the point. Numbers that are not finite
are shown by name, and the name for "not a number" has no sign. -/
def numberText (x : Float) (places : Nat) : String :=
  match x.toModel.unpack with
  | .notANumber => "nan"
  | .infinity .positive => "inf"
  | .infinity .negative => "-inf"
  | .zero _ => "0"
  | .finite s m e _ => (Decimal.ofBinary s m e places).text

/-- The text on the display. -/
def displayText (x : Float) : String := numberText x displayPlaces

/-! ## Display in steps -/

/-- The digits of `f / 10 ^ places`, for `f < 10 ^ places`, to the last place. -/
def fixedFraction : (places f : Nat) → List Digit
  | 0, _ => []
  | k + 1, f => ⟨f / 10 ^ k % 10, Nat.mod_lt _ (by decide)⟩ :: fixedFraction k (f % 10 ^ k)

/-- Every place is written, and zero may have a sign. -/
def Decimal.fixedChars (d : Decimal) : List Char :=
  (if d.negative then ['-'] else []) ++ d.whole ++
    if d.places = 0 then []
    else '.' :: (fixedFraction d.places (d.unscaled % 10 ^ d.places)).map Digit.toChar

/-- A double with exactly `places` digits after the point. -/
def fixedChars (x : Float) (places : Nat) : List Char :=
  match x.toModel.unpack with
  | .notANumber => "nan".toList
  | .infinity .positive => "inf".toList
  | .infinity .negative => "-inf".toList
  | .zero s => (⟨s == .negative, 0, places⟩ : Decimal).fixedChars
  | .finite s m e _ => (Decimal.rounded s m e places).fixedChars

/-- Leaves out a character at the end, as often as it stands there. -/
def stripEnd (c : Char) (s : List Char) : List Char := (s.reverse.dropWhile (· = c)).reverse

/-- Zeros at the end are left out behind a point only, and then the point if it is at the end. -/
def trimFraction (s : List Char) : List Char :=
  if '.' ∈ s then stripEnd '.' (stripEnd '0' s) else s

def unsignZero (s : List Char) : List Char := if s = ['-', '0'] then ['0'] else s

/-- The text of a double, written with all places, trimmed, and freed of the sign of zero. -/
def trimmedText (x : Float) (places : Nat) : String :=
  String.ofList (unsignZero (trimFraction (fixedChars x places)))

/-! ## Place counts given by a caller -/

inductive PlacesError where
  | negative
  | tooLarge
  | tooManyDigits
deriving DecidableEq, Repr

def PlacesError.message : PlacesError → String
  | .negative => "Format specifier missing precision"
  | .tooLarge => "precision too big"
  | .tooManyDigits => "Too many decimal digits in format string"

/-- A count is a 32-bit number that is not negative; beyond 63 bits it cannot even be read. -/
def places? (n : Int) : Except PlacesError Nat :=
  if n < 0 then .error .negative
  else if n < 2 ^ (31 : Nat) then .ok n.toNat
  else if n < 2 ^ (63 : Nat) then .error .tooLarge
  else .error .tooManyDigits

end PocketCalculator
