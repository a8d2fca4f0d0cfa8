import PocketCalculator.Calculator
import PocketCalculator.Json.Label

/-!
# Requests for keys

A client names the keys to press in a JSON object, as a list under `keys` or as a single one under
`key`. All labels are checked before any key is pressed.
-/

namespace PocketCalculator

/-- The labels of a list of values, or the first value that is not the label of a key. -/
def checkLabels : List Json → Except Calculator.UnknownKey (List String)
  | [] => .ok []
  | v :: r =>
    match v with
    | .string s =>
      if (Key.ofLabel? s).isSome then (checkLabels r).map (s :: ·) else .error ⟨s⟩
    | _ => .error ⟨v.label⟩

inductive KeyRequestError where
  | notAList
  | missing
  | unknownKey (e : Calculator.UnknownKey)
deriving DecidableEq, Repr

def KeyRequestError.message : KeyRequestError → String
  | .notAList => "keys must be a list of key labels"
  | .missing => "key or keys is required"
  | .unknownKey e => e.message

/-- `keys` counts before `key`, even if it holds no list. -/
def requestedLabels (members : List (String × Json)) : Except KeyRequestError (List String) :=
  match Json.member? members "keys" with
  | some (.array items) => (checkLabels items).mapError .unknownKey
  | some _ => .error .notAList
  | none =>
    match Json.member? members "key" with
    | some v => (checkLabels [v]).mapError .unknownKey
    | none => .error .missing

end PocketCalculator
