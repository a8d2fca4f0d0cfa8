import PocketCalculator.Json
import PocketCalculator.Text.Quoted
import PocketCalculator.Decimal.Shortest

/-!
# The label of a JSON value

A client may send any value where a key label is expected; messages show it as text. A string is
its own label. Inside arrays and objects strings are quoted.
-/

namespace PocketCalculator.Json

mutual

/-- The text of a value as part of a larger one. -/
def nestedLabel : Json → String
  | .null => "None"
  | .bool true => "True"
  | .bool false => "False"
  | .integer n => intText n
  | .number x => scientificText x
  | .string s => quote s
  | .array items => "[" ++ ", ".intercalate (itemLabels items) ++ "]"
  | .object members => "\x7b" ++ ", ".intercalate (memberLabels members) ++ "\x7d"

def itemLabels : List Json → List String
  | [] => []
  | v :: r => nestedLabel v :: itemLabels r

def memberLabels : List (String × Json) → List String
  | [] => []
  | (name, v) :: r => (quote name ++ ": " ++ nestedLabel v) :: memberLabels r

end

def label : Json → String
  | .string s => s
  | v => nestedLabel v

end PocketCalculator.Json
