import PocketCalculator.Text.Hexadecimal
import PocketCalculator.Text.Printable

/-!
# Quoted text

Text in messages stands in quotes, on one line. Single quotes are used unless the text holds a
single quote and no double one. The quote in use and the backslash get a backslash in front, and a
character that is not printable is written by its number.
-/

namespace PocketCalculator

/-- The quote that encloses a text. -/
def enclosingQuote (s : List Char) : Char :=
  if s.contains '\'' && !s.contains '"' then '"' else '\''

def escapeChar (q c : Char) : List Char :=
  if c = q || c = '\\' then ['\\', c]
  else if c = '\t' then ['\\', 't']
  else if c = '\n' then ['\\', 'n']
  else if c = '\r' then ['\\', 'r']
  else if isPrintable c then [c]
  else if c.toNat < 0x100 then '\\' :: 'x' :: hexDigits 2 c.toNat
  else if c.toNat < 0x10000 then '\\' :: 'u' :: hexDigits 4 c.toNat
  else '\\' :: 'U' :: hexDigits 8 c.toNat

def quoteChars (s : List Char) : List Char :=
  let q := enclosingQuote s
  q :: (s.flatMap (escapeChar q) ++ [q])

def quote (s : String) : String := String.ofList (quoteChars s.toList)

/-- A list of texts in brackets, each of them quoted. -/
def quoteList (ss : List String) : String :=
  "[" ++ ", ".intercalate (ss.map quote) ++ "]"

end PocketCalculator
