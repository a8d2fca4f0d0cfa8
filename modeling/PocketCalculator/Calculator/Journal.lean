import PocketCalculator.Calculator

/-!
# What a calculator reports

Each key leaves a short report for whoever watches the calculator at work: what failed to evaluate,
what was ignored, and what the expression has become.
-/

namespace PocketCalculator

inductive Event where
  | divisionByZero (text : String) (cause : EvaluationError)
  | evaluationFailed (text : String) (cause : EvaluationError)
  | cleared
  | nothingToEvaluate
  | operatorIgnored (o : Operator)
  | applied (key : Key) (tokens : List String) (result : String)

namespace Event

def message : Event → String
  | .divisionByZero text e => s!"Division by zero in {quote text}: {e.message}"
  | .evaluationFailed text e => s!"Evaluation failed for {quote text}: {e.message}"
  | .cleared => "Cleared"
  | .nothingToEvaluate => "Nothing to evaluate"
  | .operatorIgnored o => s!"Ignored leading operator {quote o.text}"
  | .applied k ts r => s!"Key {quote k.label} -> tokens={quoteList ts} result={quote r}"

/-- What evaluating a text for the display reports: its failure, if it fails. -/
def ofEvaluation (text : String) : List Event :=
  match compute text with
  | .ok _ => []
  | .error e => if e.isDivisionByZero then [.divisionByZero text e] else [.evaluationFailed text e]

end Event

namespace Calculator

/-- Reports that belong to the result line of the tokens just entered. -/
def liveEvents (ts : List Token) : List Event :=
  if Token.endsWithNumber ts then Event.ofEvaluation (expressionText ts) else []

/-- The reports of pressing a key. -/
def events (c : Calculator) (k : Key) : List Event :=
  let after := c.press k
  let applied := Event.applied k (Token.texts after.tokens) after.result
  match k with
  | .clear => [.cleared]
  | .evaluate =>
    if Token.endsWithNumber c.tokens then Event.ofEvaluation (expressionText c.tokens)
    else [.nothingToEvaluate]
  | .digit _ => liveEvents after.tokens ++ [applied]
  | .operator o =>
    (if after.tokens.isEmpty then [.operatorIgnored o] else []) ++
      liveEvents after.tokens ++ [applied]

/-- The reports of a row of keys, in order. -/
def eventsAll (c : Calculator) : List Key → List Event
  | [] => []
  | k :: r => c.events k ++ (c.press k).eventsAll r

end Calculator

end PocketCalculator
