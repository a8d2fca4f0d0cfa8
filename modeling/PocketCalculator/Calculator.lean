import PocketCalculator.Display

/-!
# The calculator

The state of a calculator is the list of tokens entered so far with the two lines on its display.
After every key the expression is evaluated as far as it stands. `=` freezes the expression with
its result, and the next digit or operator starts afresh. A key that makes no sense where it is
pressed is ignored.
-/

namespace PocketCalculator

structure Calculator where
  tokens : List Token
  accumulator : String
  result : String
  mode : Mode
deriving DecidableEq

namespace Calculator

def initial : Calculator := ⟨[], "", "", .entering⟩

def display (c : Calculator) : Display :=
  ⟨c.accumulator, c.result, Token.texts c.tokens, c.mode⟩

/-! ## Entering tokens -/

/-- A digit continues the last numeral or begins a new one. -/
def enterDigit (d : Digit) (ts : List Token) : List Token :=
  match ts.getLast? with
  | some (.number n) => ts.dropLast ++ [.number (n.push d)]
  | _ => ts ++ [.number (.ofDigit d)]

/-- An operator follows a number or replaces the operator before it. With nothing before it only a
minus is taken, as "zero minus". -/
def enterOperator (o : Operator) (ts : List Token) : List Token :=
  match ts.getLast? with
  | none => if o = .sub then [.number .zero, .operator .sub] else []
  | some (.operator _) => ts.dropLast ++ [.operator o]
  | some (.number _) => ts ++ [.operator o]

/-- Behind anything but a number a digit begins a numeral. -/
theorem enterDigit_of_not_endsWithNumber {ts : List Token} (h : Token.endsWithNumber ts = false)
    (d : Digit) : enterDigit d ts = ts ++ [.number (.ofDigit d)] := by
  unfold enterDigit
  split
  · next n hlast => simp [Token.endsWithNumber, hlast, Token.isNumber] at h
  · rfl

@[simp] theorem enterDigit_number (d : Digit) (ts : List Token) (n : Numeral) :
    enterDigit d (ts ++ [Token.number n]) = ts ++ [Token.number (n.push d)] := by
  simp [enterDigit]

@[simp] theorem enterDigit_operator (d : Digit) (ts : List Token) (o : Operator) :
    enterDigit d (ts ++ [Token.operator o]) =
      ts ++ [Token.operator o] ++ [Token.number (.ofDigit d)] := by
  simp [enterDigit]

@[simp] theorem enterOperator_number (o : Operator) (ts : List Token) (n : Numeral) :
    enterOperator o (ts ++ [Token.number n]) = ts ++ [Token.number n] ++ [Token.operator o] := by
  simp [enterOperator]

@[simp] theorem enterOperator_operator (o p : Operator) (ts : List Token) :
    enterOperator o (ts ++ [Token.operator p]) = ts ++ [Token.operator o] := by
  simp [enterOperator]

/-- The text that is evaluated and shown. -/
def expressionText (ts : List Token) : String := joinTexts (Token.texts ts)

/-- The result line for an expression; empty as long as a number is missing. -/
def liveResult (ts : List Token) : String :=
  if Token.endsWithNumber ts then evaluate (expressionText ts) else ""

/-- The state in which `ts` has been entered. -/
def entered (ts : List Token) : Calculator :=
  ⟨ts, expressionText ts, liveResult ts, .entering⟩

/-- The tokens that the next digit or operator is added to. -/
def pendingTokens (c : Calculator) : List Token :=
  match c.mode with
  | .entering => c.tokens
  | .evaluated => []

/-- Freezes an expression that is complete. -/
def finish (c : Calculator) : Calculator :=
  if Token.endsWithNumber c.tokens then
    let r := evaluate (expressionText c.tokens)
    ⟨c.tokens, frozenText (Token.texts c.tokens) r, r, .evaluated⟩
  else c

/-! ## Keys -/

def press (c : Calculator) : Key → Calculator
  | .clear => initial
  | .evaluate => c.finish
  | .digit d => entered (enterDigit d c.pendingTokens)
  | .operator o => entered (enterOperator o c.pendingTokens)

def pressAll (c : Calculator) (ks : List Key) : Calculator := ks.foldl press c

theorem pressAll_cons (c : Calculator) (k : Key) (ks : List Key) :
    c.pressAll (k :: ks) = (c.press k).pressAll ks := rfl

theorem pressAll_append (c : Calculator) (ks ls : List Key) :
    c.pressAll (ks ++ ls) = (c.pressAll ks).pressAll ls :=
  List.foldl_append

/-- A label that belongs to no key. -/
structure UnknownKey where
  label : String
deriving DecidableEq, Repr

def UnknownKey.message (e : UnknownKey) : String := s!"Unknown key: {quote e.label}"

def pressLabel (c : Calculator) (label : String) : Except UnknownKey Calculator :=
  match Key.ofLabel? label with
  | some k => .ok (c.press k)
  | none => .error ⟨label⟩

/-- Presses labels in order up to the first that belongs to no key. The calculator is returned as
it was left, with that label if there was one. -/
def pressLabels (c : Calculator) : List String → Calculator × Option UnknownKey
  | [] => (c, none)
  | l :: r =>
    match Key.ofLabel? l with
    | some k => (c.press k).pressLabels r
    | none => (c, some ⟨l⟩)

theorem pressLabels_labels (c : Calculator) (ks : List Key) :
    c.pressLabels (ks.map Key.label) = (c.pressAll ks, none) := by
  induction ks generalizing c with
  | nil => rfl
  | cons k r ih => simpa [pressLabels, pressAll] using ih (c.press k)

end Calculator

end PocketCalculator
