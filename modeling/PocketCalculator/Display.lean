import PocketCalculator.Expression.Evaluation
import PocketCalculator.Json

/-!
# What a calculator shows

A snapshot of the display: the expression line, the result line, the tokens and the mode. A host
sends it as a JSON object, with the session it belongs to if there is one.
-/

namespace PocketCalculator

/-- Whether a number is being entered or a finished evaluation is on the display. -/
inductive Mode where
  | entering
  | evaluated
deriving DecidableEq, Repr

namespace Mode

def name : Mode → String
  | .entering => "entering"
  | .evaluated => "evaluated"

structure UnknownName where
  name : String
deriving DecidableEq, Repr

def UnknownName.message (e : UnknownName) : String := s!"{quote e.name} is not a valid Mode"

def ofName (s : String) : Except UnknownName Mode :=
  if s = entering.name then .ok .entering
  else if s = evaluated.name then .ok .evaluated
  else .error ⟨s⟩

@[simp] theorem ofName_name (m : Mode) : ofName m.name = .ok m := by
  cases m <;> rfl

end Mode

structure Display where
  accumulator : String
  result : String
  tokens : List String
  mode : Mode
deriving DecidableEq

namespace Display

/-- A result that begins with the error label is an error. -/
def isError (d : Display) : Bool :=
  errorLabel.toList.isPrefixOf d.result.toList

def members (d : Display) : List (String × Json) :=
  [("accumulator", .string d.accumulator),
   ("result", .string d.result),
   ("tokens", .strings d.tokens),
   ("mode", .string d.mode.name),
   ("is_error", .bool d.isError)]

def toJson (d : Display) : Json := .object d.members

/-- The display of a session; the session is left out when it has no id. -/
def toJsonFor (d : Display) (sessionId : Option String) : Json :=
  .object (d.members ++ (sessionId.map fun s => ("session_id", Json.string s)).toList)

end Display

end PocketCalculator
