import PocketCalculator.Json
import PocketCalculator.Numeral
import PocketCalculator.Text.Hexadecimal

/-!
# Reading JSON

A text is first cut into lexemes, then the lexemes are put together by a machine whose stack holds
the arrays and objects that are still open. Both steps look at each character or lexeme once.

Beyond the standard, `NaN`, `Infinity` and `-Infinity` are numbers. When a name occurs twice in an
object the last value counts. A whole number of more than 4300 digits is refused.
-/

namespace PocketCalculator.Json

/-! ## Lexemes -/

inductive Lexeme where
  /-- One of `[ ] { } : ,`. -/
  | mark (c : Char)
  | text (s : String)
  | scalar (v : Json)

def isDigit (c : Char) : Bool := (Digit.ofChar? c).isSome

def charsValue (cs : List Char) : Nat := digitsValue (cs.filterMap Digit.ofChar?)

/-- The most digits a whole number may have. -/
def maxDigits : Nat := 4300

/-- Reads an exponent of ten after `e` or `E`. -/
def exponent? (cs : List Char) : Option Int :=
  let (negative, ds) := match cs with
    | '-' :: r => (true, r)
    | '+' :: r => (false, r)
    | r => (false, r)
  if ds.isEmpty || !ds.all isDigit then none
  else some (if negative then -(charsValue ds : Int) else charsValue ds)

/-- The double nearest to `± m * 10 ^ e`. -/
def scientific (negative : Bool) (m : Nat) (e : Int) : Float :=
  let x := Float.ofScientific m (e < 0) e.natAbs
  if negative then -x else x

/-- What follows the whole part: a fraction, an exponent, both or nothing. -/
def fractionAndExponent? (negative : Bool) (whole rest : List Char) : Option Json :=
  let (frac, rest) := match rest with
    | '.' :: r => (some (r.takeWhile isDigit), r.dropWhile isDigit)
    | r => (none, r)
  match frac, rest with
  | some [], _ => none
  | none, [] =>
    if whole.length ≤ maxDigits then
      some (.integer (if negative then -(charsValue whole : Int) else charsValue whole))
    else none
  | some ds, [] => some (.number (scientific negative (charsValue (whole ++ ds)) (-ds.length)))
  | _, 'e' :: r | _, 'E' :: r =>
    let ds := frac.getD []
    (exponent? r).map fun e =>
      .number (scientific negative (charsValue (whole ++ ds)) (e - ds.length))
  | _, _ => none

/-- A number has no superfluous zero in front. -/
def number? (cs : List Char) : Option Json :=
  let (negative, cs) := match cs with
    | '-' :: r => (true, r)
    | r => (false, r)
  let whole := cs.takeWhile isDigit
  match whole with
  | [] => none
  | '0' :: _ :: _ => none
  | _ => fractionAndExponent? negative whole (cs.dropWhile isDigit)

/-- A value written without quotes or brackets. -/
def scalar? (cs : List Char) : Option Json :=
  match String.ofList cs with
  | "null" => some .null
  | "true" => some (.bool true)
  | "false" => some (.bool false)
  | "NaN" => some (.number (0.0 / 0.0))
  | "Infinity" => some (.number (1.0 / 0.0))
  | "-Infinity" => some (.number (-1.0 / 0.0))
  | _ => number? cs

/-- Joins pairs of UTF-16 surrogates. A surrogate without its partner is no character; the
replacement character stands for it. -/
def joinSurrogates : List Nat → List Char
  | [] => []
  | [n] => [if 0xD800 ≤ n && n < 0xE000 then '\uFFFD' else Char.ofNat n]
  | h :: l :: r =>
    if 0xD800 ≤ h && h < 0xDC00 && 0xDC00 ≤ l && l < 0xE000 then
      Char.ofNat (0x10000 + (h - 0xD800) * 0x400 + (l - 0xDC00)) :: joinSurrogates r
    else (if 0xD800 ≤ h && h < 0xE000 then '\uFFFD' else Char.ofNat h) :: joinSurrogates (l :: r)

def isMark (c : Char) : Bool := c ∈ ['[', ']', '{', '}', ':', ',']

def isSpace (c : Char) : Bool := c ∈ [' ', '\t', '\n', '\r']

/-- The characters of numbers and words. -/
def isBare (c : Char) : Bool := c.isAlphanum || c ∈ ['+', '-', '.']

/-- The character that a backslash and `c` stand for. -/
def unescape? (c : Char) : Option Char :=
  match c with
  | '"' | '\\' | '/' => some c
  | 'b' => some '\x08'
  | 'f' => some '\x0c'
  | 'n' => some '\n'
  | 'r' => some '\r'
  | 't' => some '\t'
  | _ => none

/-- Where the lexer stands. What has been read of the current lexeme is kept in reverse; for texts
as numbers, since an escape may write half a character. -/
inductive Cursor where
  | between
  | bare (read : List Char)
  | text (read : List Nat)
  | escape (read : List Nat)
  | unicode (read : List Nat) (missing value : Nat)

/-- Cuts a text into lexemes. -/
def lexemes? : Cursor → List Char → Option (List Lexeme)
  | .between, [] => some []
  | .bare read, [] => (scalar? read.reverse).map fun v => [.scalar v]
  | _, [] => none
  | .between, c :: r =>
    if isSpace c then lexemes? .between r
    else if isMark c then (lexemes? .between r).map (.mark c :: ·)
    else if c = '"' then lexemes? (.text []) r
    else if isBare c then lexemes? (.bare [c]) r
    else none
  | .bare read, c :: r =>
    if isBare c then lexemes? (.bare (c :: read)) r
    else do
      let v ← scalar? read.reverse
      if isSpace c then (lexemes? .between r).map (.scalar v :: ·)
      else if isMark c then (lexemes? .between r).map fun ls => .scalar v :: .mark c :: ls
      else none
  | .text read, c :: r =>
    if c = '"' then
      (lexemes? .between r).map (.text (String.ofList (joinSurrogates read.reverse)) :: ·)
    else if c = '\\' then lexemes? (.escape read) r
    else if c.toNat < 0x20 then none
    else lexemes? (.text (c.toNat :: read)) r
  | .escape read, c :: r =>
    if c = 'u' then lexemes? (.unicode read 4 0) r
    else match unescape? c with
      | some d => lexemes? (.text (d.toNat :: read)) r
      | none => none
  | .unicode read missing value, c :: r =>
    match hexDigitValue? c with
    | none => none
    | some d =>
      if missing ≤ 1 then lexemes? (.text ((16 * value + d) :: read)) r
      else lexemes? (.unicode read (missing - 1) (16 * value + d)) r

/-! ## Values -/

/-- An array or object that is still open, with what it holds so far (items in reverse); an object
that waits for the value of a name remembers the name. -/
inductive Frame where
  | items (before : List Json)
  | members (before : List (String × Json))
  | pending (before : List (String × Json)) (name : String)

/-- What may come next. -/
inductive Expected where
  | value
  | itemOrClose
  | nameOrClose
  | name
  | colon (name : String)
  /-- A value is complete; its container, if any, goes on or ends. -/
  | done (v : Json)

def startValue (stack : List Frame) : Lexeme → Option (Expected × List Frame)
  | .mark '[' => some (.itemOrClose, .items [] :: stack)
  | .mark '{' => some (.nameOrClose, .members [] :: stack)
  | .text s => some (.done (.string s), stack)
  | .scalar v => some (.done v, stack)
  | _ => none

def step : Expected → List Frame → Lexeme → Option (Expected × List Frame)
  | .value, stack, l => startValue stack l
  | .itemOrClose, .items _ :: stack, .mark ']' => some (.done (.array []), stack)
  | .itemOrClose, stack, l => startValue stack l
  | .nameOrClose, .members _ :: stack, .mark '}' => some (.done (.object []), stack)
  | .nameOrClose, stack, .text s => some (.colon s, stack)
  | .name, stack, .text s => some (.colon s, stack)
  | .colon s, .members b :: stack, .mark ':' => some (.value, .pending b s :: stack)
  | .done v, .items b :: stack, .mark ',' => some (.value, .items (v :: b) :: stack)
  | .done v, .items b :: stack, .mark ']' => some (.done (.array (v :: b).reverse), stack)
  | .done v, .pending b s :: stack, .mark ',' => some (.name, .members (putMember b s v) :: stack)
  | .done v, .pending b s :: stack, .mark '}' => some (.done (.object (putMember b s v)), stack)
  | _, _, _ => none

def assemble? : Expected → List Frame → List Lexeme → Option Json
  | .done v, [], [] => some v
  | _, _, [] => none
  | e, stack, l :: r => do
    let (e', stack') ← step e stack l
    assemble? e' stack' r

/-- The value that a text writes. -/
def read? (s : List Char) : Option Json := do
  let ls ← lexemes? .between s
  assemble? .value [] ls

end PocketCalculator.Json
