import PocketCalculator.Json
import PocketCalculator.Text.Quoted
import PocketCalculator.Decimal.Shortest

/-!
# Writing JSON

One line of ASCII: a blank follows each comma and colon, and characters outside the printable ASCII
range are written as escapes in UTF-16 units.
-/

namespace PocketCalculator.Json

def unitEscape (n : Nat) : List Char := '\\' :: 'u' :: hexDigits 4 n

def escape (c : Char) : List Char :=
  if c = '"' || c = '\\' then ['\\', c]
  else if c = '\n' then ['\\', 'n']
  else if c = '\r' then ['\\', 'r']
  else if c = '\t' then ['\\', 't']
  else if c = '\x0c' then ['\\', 'f']
  else if c = '\x08' then ['\\', 'b']
  else if 0x20 ≤ c.toNat && c.toNat < 0x7F then [c]
  else if c.toNat < 0x10000 then unitEscape c.toNat
  else
    let n := c.toNat - 0x10000
    unitEscape (0xD800 + n / 0x400) ++ unitEscape (0xDC00 + n % 0x400)

def writeString (s : String) : String :=
  String.ofList ('"' :: (s.toList.flatMap escape ++ ['"']))

/-- Numbers that are not finite have no JSON form; they are written by the names that readers
commonly accept. -/
def writeNumber (x : Float) : String :=
  match x.toModel.unpack with
  | .notANumber => "NaN"
  | .infinity .positive => "Infinity"
  | .infinity .negative => "-Infinity"
  | _ => scientificText x

mutual

def write : Json → String
  | .null => "null"
  | .bool true => "true"
  | .bool false => "false"
  | .integer n => intText n
  | .number x => writeNumber x
  | .string s => writeString s
  | .array items => "[" ++ ", ".intercalate (writeItems items) ++ "]"
  | .object members => "\x7b" ++ ", ".intercalate (writeMembers members) ++ "\x7d"

def writeItems : List Json → List String
  | [] => []
  | v :: r => write v :: writeItems r

def writeMembers : List (String × Json) → List String
  | [] => []
  | (name, v) :: r => (writeString name ++ ": " ++ write v) :: writeMembers r

end

end PocketCalculator.Json
