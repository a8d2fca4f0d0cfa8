import PocketCalculator.Expression
import PocketCalculator.Expression.ReversePolish
import PocketCalculator.Decimal.Fixed

/-!
# Evaluation

An expression is evaluated in double precision by running its tokens, in reverse Polish order, on a
stack of numbers. Division by zero and a result that is not finite are failures. For the display
every failure becomes a label.
-/

namespace PocketCalculator

/-! ## The stack machine -/

/-- What numerals denote and operators do. -/
structure Arithmetic (α ε : Type) where
  ofNumeral : Numeral → α
  apply : Operator → α → α → Except ε α
  /-- The failure of an operator that finds fewer than two numbers. -/
  missingOperand : ε

/-- Runs tokens on a stack; the right operand lies on top of the left one. -/
def Arithmetic.run (A : Arithmetic α ε) : List Token → List α → Except ε (List α)
  | [], stack => .ok stack
  | .number n :: r, stack => A.run r (A.ofNumeral n :: stack)
  | .operator o :: r, right :: left :: stack => do
    let v ← A.apply o left right
    A.run r (v :: stack)
  | .operator _ :: _, _ => .error A.missingOperand

theorem Arithmetic.run_append (A : Arithmetic α ε) (ts us : List Token) (stack : List α) :
    A.run (ts ++ us) stack = A.run ts stack >>= A.run us := by
  fun_induction A.run ts stack with
  | case1 => rfl
  | case2 _ _ _ ih => exact ih
  | case3 o r right left stack ih =>
    simp only [List.cons_append, Arithmetic.run, bind_assoc]
    exact bind_congr ih
  | case4 _ _ _ h =>
    simp only [List.cons_append]
    rw [Arithmetic.run]
    · rfl
    · exact h

/-- The number that tokens in reverse Polish order leave on an empty stack. -/
def Arithmetic.result (A : Arithmetic α ε) (ts : List Token) : Except ε α := do
  match ← A.run ts [] with
  | [v] => .ok v
  | _ => .error A.missingOperand

/-! ## Doubles -/

inductive EvaluationError where
  | unreadable (cause : ReadError)
  | divisionByZero (dividend : Float)
  | notFinite (value : Float)
  /-- Never happens to an expression; arbitrary tokens can lack an operand. -/
  | missingOperand
deriving DecidableEq

namespace EvaluationError

def message : EvaluationError → String
  | .unreadable e => e.message
  | .divisionByZero a => s!"division of {displayText a} by zero"
  | .notFinite v => s!"Result is not finite: {displayText v}"
  | .missingOperand => "missing operand"

def isDivisionByZero : EvaluationError → Bool
  | .divisionByZero _ => true
  | _ => false

end EvaluationError

/-- The double nearest to the number a numeral writes, ties to even; infinity beyond the largest
double. -/
def Numeral.toFloat (n : Numeral) : Float := .ofModel (.ofNat n.value)

def applyDouble : Operator → Float → Float → Except EvaluationError Float
  | .add, a, b => .ok (a + b)
  | .sub, a, b => .ok (a - b)
  | .mul, a, b => .ok (a * b)
  | .div, a, b => if b == 0 then .error (.divisionByZero a) else .ok (a / b)

def doubles : Arithmetic Float EvaluationError where
  ofNumeral := Numeral.toFloat
  apply := applyDouble
  missingOperand := .missingOperand

/-- The value of an expression, finite or not. -/
def Expression.value (e : Expression) : Except EvaluationError Float :=
  doubles.result (reversePolish e.tokens)

def readExpression (text : String) : Except EvaluationError Expression :=
  (Expression.ofText text).mapError .unreadable

/-- The value of a text as a finite double, or the reason why it has none. -/
def compute (text : String) : Except EvaluationError Float := do
  let e ← readExpression text
  let v ← e.value
  if v.isFinite then .ok v else .error (.notFinite v)

/-! ## The display -/

def errorLabel : String := "Error"

def divisionLabel : String := "Error: divide by zero"

/-- Whether a slash with a zero behind it, one space between, stands anywhere in a text. -/
def mentionsDivisionByZero : List Char → Bool
  | [] => false
  | c :: r => ['/', ' ', '0'].isPrefixOf (c :: r) || mentionsDivisionByZero r

/-- The label of a failure. A text that mentions a division by zero is labelled so even when it
fails for another reason. -/
def failureLabel (text : String) (e : EvaluationError) : String :=
  if e.isDivisionByZero || mentionsDivisionByZero text.toList then divisionLabel else errorLabel

/-- The display for a text: its value or a label. -/
def evaluate (text : String) : String :=
  match compute text with
  | .ok v => displayText v
  | .error e => failureLabel text e

end PocketCalculator
