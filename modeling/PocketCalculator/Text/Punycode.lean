/-!
# Punycode

Text in any script is written with the letters `a` to `z`, digits and a hyphen. The characters of
ASCII come first, as they are. Then the others follow, the lowest code points first; each is given
by the number of places and code points that are skipped since the one before. These numbers have
digits of base 36, the least significant first, and end with a digit below a threshold, which
depends on the place and adapts to the size of the numbers before.
-/

namespace PocketCalculator.Punycode

/-- The digits from 0 to 25 are letters and those from 26 to 35 are `0` to `9`. -/
def digit (d : Nat) : Char := Char.ofNat (if d < 26 then 97 + d else 22 + d)

/-- The threshold of the digit that stands at `place`, counted by 36 from 36 on. -/
def threshold (bias place : Nat) : Nat := max 1 (min 26 (place - bias))

theorem one_le_threshold (bias place : Nat) : 1 ≤ threshold bias place := by
  unfold threshold; omega

def number (bias place n : Nat) : List Char :=
  let t := threshold bias place
  if n < t then [digit n]
  else digit (t + (n - t) % (36 - t)) :: number bias (place + 36) ((n - t) / (36 - t))
termination_by n
decreasing_by
  have ht := one_le_threshold bias place
  exact Nat.lt_of_le_of_lt (Nat.div_le_self _ _) (by omega)

/-- The bias after a number that has been scaled down; each division moves it by one place. -/
def settledBias (n moved : Nat) : Nat :=
  if 455 < n then settledBias (n / 35) (moved + 36) else moved + 36 * n / (n + 38)
termination_by n
decreasing_by omega

/-- The bias after number `n`, when `count` characters have been written. The first number tends to
be much larger than the rest. -/
def adaptedBias (isFirst : Bool) (count n : Nat) : Nat :=
  let scaled := if isFirst then n / 700 else n / 2
  settledBias (scaled + scaled / count) 0

structure Progress where
  /-- How many characters have been written. -/
  count : Nat
  isFirst : Bool
  bias : Nat
  /-- The number to be written next. -/
  skipped : Nat
  output : List Char

/-- Passes a character on the way to the next place of code point `n`. -/
def pass (n : Nat) (p : Progress) (c : Char) : Progress :=
  if c.toNat < n then { p with skipped := p.skipped + 1 }
  else if c.toNat = n then
    { count := p.count + 1
      isFirst := false
      bias := adaptedBias p.isFirst (p.count + 1) p.skipped
      skipped := 0
      output := p.output ++ number p.bias 36 p.skipped }
  else p

/-- Writes the code points of a list that goes up; all those below `next` have been written. -/
def writeAll (s : List Char) (p : Progress) (next : Nat) : List Nat → Progress
  | [] => p
  | n :: ns =>
    let start := { p with skipped := p.skipped + (n - next) * (p.count + 1) }
    let done := s.foldl (pass n) start
    writeAll s { done with skipped := done.skipped + 1 } (n + 1) ns

def isBasic (c : Char) : Bool := c.toNat < 128

def encode (s : List Char) : List Char :=
  let basic := s.filter isBasic
  let others := ((s.filter (!isBasic ·)).map Char.toNat).eraseDups.mergeSort
  let start : Progress := ⟨basic.length, true, 72, 0, []⟩
  basic ++ (if basic.isEmpty then [] else ['-']) ++ (writeAll s start 128 others).output

end PocketCalculator.Punycode
