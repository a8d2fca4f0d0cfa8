import PocketCalculator.Text.Blank
import PocketCalculator.Text.DecimalDigit
import PocketCalculator.Text.Quoted
import PocketCalculator.Decimal.Natural

/-!
# Whole numbers written by people

A setting may hold a whole number with blanks around it, a sign, digits of any script, and single
underscores between digits. At most 4300 digits are accepted; they are counted before anything
behind them is looked at.
-/

namespace PocketCalculator

/-- The text that was not accepted, and why. -/
inductive IntegerError where
  | notANumber (text : String)
  | tooManyDigits (count : Nat)
deriving DecidableEq, Repr

/-- The most digits a written number may have. -/
def maxIntegerDigits : Nat := 4300

/-- How much of the quoted text a message shows. -/
def shownLength : Nat := 200

def IntegerError.message : IntegerError → String
  | .notANumber text =>
    "invalid literal for int() with base 10: " ++
      String.ofList ((quoteChars text.toList).take shownLength)
  | .tooManyDigits n =>
    s!"Exceeds the limit ({natText maxIntegerDigits} digits) for integer string conversion: " ++
      s!"value has {natText n} digits; use sys.set_int_max_str_digits() to increase the limit"

/-- The blanks around a number are those of a text, except the information separators. -/
def isIntegerBlank (c : Char) : Bool :=
  isBlank c && !(0x1C ≤ c.toNat && c.toNat < 0x20)

/-- The digits of a row in which single underscores may stand between digits. -/
def groupedDigits? : List Char → Option (List Digit)
  | [] => none
  | [c] => (decimalDigit? c).map ([·])
  | c :: '_' :: r => do
    let d ← decimalDigit? c
    let ds ← groupedDigits? r
    some (d :: ds)
  | c :: r => do
    let d ← decimalDigit? c
    let ds ← groupedDigits? r
    some (d :: ds)

def splitSign : List Char → Bool × List Char
  | '-' :: r => (true, r)
  | '+' :: r => (false, r)
  | s => (false, s)

def isDigitOrUnderscore (c : Char) : Bool := (decimalDigit? c).isSome || c = '_'

def readInteger (text : String) : Except IntegerError Int :=
  let (negative, body) := splitSign (text.toList.dropWhile isIntegerBlank)
  match groupedDigits? (body.takeWhile isDigitOrUnderscore) with
  | none => .error (.notANumber text)
  | some ds =>
    if maxIntegerDigits < ds.length then .error (.tooManyDigits ds.length)
    else if (body.dropWhile isDigitOrUnderscore).all isIntegerBlank then
      .ok (if negative then -(digitsValue ds : Int) else digitsValue ds)
    else .error (.notANumber text)

end PocketCalculator
