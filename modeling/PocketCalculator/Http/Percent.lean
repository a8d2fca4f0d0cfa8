import PocketCalculator.Text.Hexadecimal

/-!
# Percent escapes

Text is kept in parts of a target as UTF-8; a byte may be written as a percent sign and two
hexadecimal digits.
-/

namespace PocketCalculator

def utf8 (c : Char) : List UInt8 := (String.singleton c).toUTF8.toList

/-- The bytes that a text stands for. A percent sign without two hexadecimal digits behind it stands
for itself. -/
def unescapedBytes : List Char → List UInt8
  | [] => []
  | '%' :: h :: l :: r =>
    match hexDigitValue? h, hexDigitValue? l with
    | some a, some b => UInt8.ofNat (16 * a + b) :: unescapedBytes r
    | _, _ => UInt8.ofNat 37 :: unescapedBytes (h :: l :: r)
  | c :: r => utf8 c ++ unescapedBytes r

/-- Reads bytes as UTF-8. Where they are not UTF-8, every byte outside ASCII becomes a replacement
character. -/
def decodeBytes (bs : List UInt8) : List Char :=
  match String.fromUTF8? ⟨bs.toArray⟩ with
  | some s => s.toList
  | none => bs.map fun b => if b < 128 then Char.ofNat b.toNat else '\uFFFD'

def percentDecode (s : List Char) : List Char := decodeBytes (unescapedBytes s)

/-- Writes a byte as an escape, in upper case. -/
def escapeByte (b : UInt8) : List Char := '%' :: (hexDigits 2 b.toNat).map Char.toUpper

/-- Escapes every character outside a class. -/
def percentEncode (keep : Char → Bool) (s : List Char) : List Char :=
  s.flatMap fun c => if keep c then [c] else (utf8 c).flatMap escapeByte

end PocketCalculator
