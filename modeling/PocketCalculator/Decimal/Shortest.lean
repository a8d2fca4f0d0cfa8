import PocketCalculator.Decimal.Natural

/-!
# The shortest decimal that reads back as a double

A finite double `m * 2 ^ e` is the nearest double to every real number in an interval around it.
`shortest` finds the coarsest power of ten that has a multiple in that interval, and of the
multiples the one nearest to the double. `scientificText` writes it, positionally unless the number
is very large or very small.
-/

namespace PocketCalculator

open Float.Model.UnpackedFloat (Sign)

-- Powers of integers and naturals are the core library's, whatever else is imported.
attribute [local instance (high)] instPowNat

/-! ## The interval of a double -/

/-- The reals that round to `m * 2 ^ e`, in units of `2 ^ (e - 2)`: from `low` to `high`, both ends
included when the significand is even. Below a power of two the doubles lie twice as close. -/
structure RoundingInterval where
  exponent : Int
  low : Nat
  center : Nat
  high : Nat
  closed : Bool

def RoundingInterval.ofBinary (m : Nat) (e : Int) : RoundingInterval where
  exponent := e - 2
  low := if m = 2 ^ (52 : Nat) ∧ -1074 < e then 4 * m - 1 else 4 * m - 2
  center := 4 * m
  high := 4 * m + 2
  closed := m % 2 = 0

namespace RoundingInterval

/-- A bound of the interval and a multiple of `10 ^ p` as whole numbers on one scale. -/
def scaleBound (i : RoundingInterval) (p : Int) (bound : Nat) : Nat :=
  bound * 2 ^ i.exponent.toNat * 10 ^ (-p).toNat

def scaleMultiple (i : RoundingInterval) (p : Int) (c : Nat) : Nat :=
  c * 10 ^ p.toNat * 2 ^ (-i.exponent).toNat

def holds (i : RoundingInterval) (p : Int) (c : Nat) : Bool :=
  let x := i.scaleMultiple p c
  if i.closed then i.scaleBound p i.low ≤ x && x ≤ i.scaleBound p i.high
  else i.scaleBound p i.low < x && x < i.scaleBound p i.high

/-- The multiple of `10 ^ p` in the interval that is nearest to the center, if there is one. -/
def nearest? (i : RoundingInterval) (p : Int) : Option Nat :=
  let v := i.scaleBound p i.center
  let c := v / i.scaleMultiple p 1
  match i.holds p c, i.holds p (c + 1) with
  | false, false => none
  | true, false => some c
  | false, true => some (c + 1)
  | true, true =>
    let below := v - i.scaleMultiple p c
    let above := i.scaleMultiple p (c + 1) - v
    if below < above then some c
    else if above < below then some (c + 1)
    else some (c + c % 2)

/-- Tries the grids `10 ^ p`, `10 ^ (p - 1)`, … in turn. -/
def search (i : RoundingInterval) : (tries : Nat) → (p : Int) → Nat × Int
  | 0, p => (0, p)
  | k + 1, p =>
    match i.nearest? p with
    | some c => (c, p)
    | none => i.search k (p - 1)

end RoundingInterval

/-- A coefficient and a power of ten. The first grid tried is coarser than the number itself, and
seventeen digits tell any two doubles apart. -/
def shortest (m : Nat) (e : Int) : Nat × Int :=
  (RoundingInterval.ofBinary m e).search 22 ((m.log2 + 1 + e) * 30103 / 100000 + 2)

/-! ## Writing it -/

/-- Two digits at least. -/
def exponentText (n : Int) : String :=
  let digits := natText n.natAbs
  (if n < 0 then "-" else "+") ++ (if digits.length < 2 then "0" ++ digits else digits)

/-- Writes `0.ds * 10 ^ point`, positionally for points from -3 to 16, with a fraction always. -/
def placePoint (ds : List Char) (point : Int) : String :=
  if -4 < point ∧ point ≤ 16 then
    if point ≤ 0 then String.ofList ('0' :: '.' :: (List.replicate (-point).toNat '0' ++ ds))
    else
      let whole := ds.take point.toNat ++ List.replicate (point.toNat - ds.length) '0'
      match ds.drop point.toNat with
      | [] => String.ofList (whole ++ ['.', '0'])
      | frac => String.ofList (whole ++ '.' :: frac)
  else
    match ds with
    | [] => ""
    | [d] => String.ofList [d, 'e'] ++ exponentText (point - 1)
    | d :: r => String.ofList (d :: '.' :: r ++ ['e']) ++ exponentText (point - 1)

def scientificText (x : Float) : String :=
  let signText : Sign → String
    | .negative => "-"
    | .positive => ""
  match x.toModel.unpack with
  | .notANumber => "nan"
  | .infinity s => signText s ++ "inf"
  | .zero s => signText s ++ "0.0"
  | .finite s m e _ =>
    let (c, p) := shortest m e
    let ds := (Numeral.ofNat c).digits.map Digit.toChar
    signText s ++ placePoint ds (ds.length + p)

end PocketCalculator
