import PocketCalculator.Token

/-!
# Reverse Polish order

Operators are moved behind their operands. An operator waits on a stack until one of no higher
precedence, or the end, takes it from there, so that operators of one precedence apply from left to
right. Any list of tokens is accepted, well formed or not.
-/

namespace PocketCalculator

/-- Reorders the tokens, with the operators in `waiting` read before, the latest first. -/
def reorder (waiting : List Operator) : List Token → List Token
  | [] => waiting.map .operator
  | .number n :: r => .number n :: reorder waiting r
  | .operator o :: r =>
    (waiting.takeWhile (o.precedence ≤ ·.precedence)).map .operator ++
      reorder (o :: waiting.dropWhile (o.precedence ≤ ·.precedence)) r

def reversePolish (ts : List Token) : List Token := reorder [] ts

/-! ## Token texts -/

/-- A text that is neither a numeral nor an operator. -/
structure UnknownToken where
  text : String
deriving DecidableEq, Repr

def readToken (t : String) : Except UnknownToken Token :=
  match Token.ofText? t with
  | some k => .ok k
  | none => .error ⟨t⟩

/-- Reorders texts; the first that is no token is reported. -/
def reversePolishTexts (ts : List String) : Except UnknownToken (List String) := do
  let tokens ← ts.mapM readToken
  .ok (Token.texts (reversePolish tokens))

end PocketCalculator
