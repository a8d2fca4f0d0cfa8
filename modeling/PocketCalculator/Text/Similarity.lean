/-!
# Similar texts

How much two texts have in common is measured by matching blocks: the longest block that stands in
both, then the same to the left of it and to the right of it. A misspelled name is answered with the
known names that are similar to it.
-/

namespace PocketCalculator

/-! ## Matching blocks -/

/-- How many characters two texts have in common at the front. -/
def commonFront : List Char → List Char → Nat
  | a :: r, b :: s => if a = b then commonFront r s + 1 else 0
  | _, _ => 0

/-- A block of `size` characters that begins at `left` in one text and at `right` in another. -/
structure Block where
  left : Nat
  right : Nat
  size : Nat
deriving DecidableEq, Repr

/-- The first of two blocks unless the second is longer. -/
def Block.longer (x y : Block) : Block := if x.size < y.size then y else x

/-- The longest block at the front of `a`, which stands at `left`; the leftmost one in `b`. -/
def blockAtFront (left : Nat) (a : List Char) : (right : Nat) → (b : List Char) → Block
  | right, [] => ⟨left, right, 0⟩
  | right, c :: b =>
    Block.longer ⟨left, right, commonFront a (c :: b)⟩ (blockAtFront left a (right + 1) b)

/-- The longest block of two texts; of several the leftmost one in `a`, then in `b`. -/
def longestBlock (b : List Char) : (left : Nat) → (a : List Char) → Block
  | left, [] => ⟨left, 0, 0⟩
  | left, c :: a => Block.longer (blockAtFront left (c :: a) 0 b) (longestBlock b (left + 1) a)

/-- How many characters lie in matching blocks. Each block takes a character from `a`, so `fuel`
never runs out if it is the length of `a`. -/
def matchCountWithin : (fuel : Nat) → List Char → List Char → Nat
  | 0, _, _ => 0
  | k + 1, a, b =>
    let m := longestBlock b 0 a
    if m.size = 0 then 0
    else
      matchCountWithin k (a.take m.left) (b.take m.right) + m.size +
        matchCountWithin k (a.drop (m.left + m.size)) (b.drop (m.right + m.size))

def matchCount (a b : List Char) : Nat := matchCountWithin a.length a b

/-! ## Similar names -/

/-- A known name with what it has in common with another one. -/
structure Candidate where
  name : String
  matched : Nat
  /-- The length of both names together. -/
  total : Nat
deriving DecidableEq, Repr

namespace Candidate

/-- Measures a known name against a given one. -/
def ofNames (given known : String) : Candidate :=
  let g := given.toList
  let k := known.toList
  ⟨known, matchCount k g, g.length + k.length⟩

/-- Three fifths of the characters are in matching blocks. -/
def isSimilar (c : Candidate) : Bool := 3 * c.total ≤ 10 * c.matched

/-- Whether `c` comes before `d` among the candidates: the greater share first, of equal shares the
later name. -/
def comesFirst (c d : Candidate) : Bool :=
  d.matched * c.total < c.matched * d.total ||
    (c.matched * d.total = d.matched * c.total && d.name ≤ c.name)

end Candidate

/-- How many names are suggested at most. -/
def maxSuggestions : Nat := 3

/-- The known names that are most similar to a given one, in alphabetical order. -/
def similarNames (given : String) (known : List String) : List String :=
  let candidates := (known.map (Candidate.ofNames given)).filter Candidate.isSimilar
  let best := (candidates.mergeSort Candidate.comesFirst).take maxSuggestions
  (best.map Candidate.name).mergeSort fun s t => s ≤ t

end PocketCalculator
