import PocketCalculator.Text.Composition
import PocketCalculator.Text.Direction
import PocketCalculator.Text.Folding
import PocketCalculator.Text.Punycode
import PocketCalculator.Text.Quoted

/-!
# Host names in ASCII

The labels of a host name have at most 63 characters each. A label in another script is prepared, so
that spellings that look alike become one, and written in Punycode. A name that is all ASCII is left
as it is.
-/

namespace PocketCalculator

/-- Why a name is no host name. -/
inductive HostNameError where
  | emptyOrTooLongLabel
  | tooLongLastLabel
  | prohibitedCharacter (c : Char)
  /-- Letters of both directions in one label. -/
  | mixedDirections
  /-- A label with letters from right to left has to begin and end with such a letter. -/
  | directionNotAtEnds
  /-- A label that is to be written in Punycode begins as if it were. -/
  | markedLabel
deriving DecidableEq, Repr

namespace HostNameError

def detail : HostNameError → String
  | .emptyOrTooLongLabel => "label empty or too long"
  | .tooLongLastLabel => "label too long"
  | .prohibitedCharacter c => "Invalid character " ++ quote (String.singleton c)
  | .mixedDirections => "Violation of BIDI requirement 2"
  | .directionNotAtEnds => "Violation of BIDI requirement 3"
  | .markedLabel => "Label starts with ACE prefix"

def message (e : HostNameError) : String :=
  s!"encoding with 'idna' codec failed (UnicodeError: {e.detail})"

end HostNameError

namespace HostName

def isAscii (s : List Char) : Bool := s.all (·.toNat < 128)

/-! ## Preparing a label -/

/-- Characters that are not seen and do not count. -/
def ignoredRuns : List (Nat × Nat) :=
  [
    (0x00AD, 0x00AD), (0x034F, 0x034F), (0x1806, 0x1806), (0x180B, 0x180D), (0x200B, 0x200D),
    (0x2060, 0x2060), (0xFE00, 0xFE0F), (0xFEFF, 0xFEFF)
  ]

/-- Controls, unusual spaces, marks of layout, and private characters. -/
def prohibitedRuns : List (Nat × Nat) :=
  [
    (0x0080, 0x009F), (0x06DD, 0x06DD), (0x070F, 0x070F), (0x1680, 0x1680), (0x180E, 0x180E),
    (0x200E, 0x200F), (0x2028, 0x202E), (0x2061, 0x2063), (0x206A, 0x206F), (0x2FF0, 0x2FFB),
    (0xE000, 0xF8FF), (0xFDD0, 0xFDEF), (0xFFF9, 0xFFFF), (0x1D173, 0x1D17A), (0xE0001, 0xE0001),
    (0xE0020, 0xE007F), (0xF0000, 0x10FFFF)
  ]

/-- The last two code points of every plane stand for no character. -/
def isProhibited (c : Char) : Bool := inRuns prohibitedRuns c || 0xFFFE ≤ c.toNat % 0x10000

def foldLabel (label : List Char) : List Char :=
  composed ((label.filter (!inRuns ignoredRuns ·)).flatMap foldChar)

def checkDirections (label : List Char) : Except HostNameError Unit :=
  if !label.any isRightToLeft then .ok ()
  else if label.any isLeftToRight then .error .mixedDirections
  else if label.head?.all isRightToLeft && label.getLast?.all isRightToLeft then .ok ()
  else .error .directionNotAtEnds

/-- The form that all spellings of a label share. -/
def prepared (label : List Char) : Except HostNameError (List Char) :=
  let folded := foldLabel label
  match folded.find? isProhibited with
  | some c => .error (.prohibitedCharacter c)
  | none => (checkDirections folded).map fun _ => folded

/-! ## Labels -/

def maxLabelLength : Nat := 63

def sizedLabel (label : List Char) : Except HostNameError (List Char) :=
  if label ≠ [] ∧ label.length ≤ maxLabelLength then .ok label else .error .emptyOrTooLongLabel

/-- What a label in Punycode begins with. -/
def punycodeMark : List Char := "xn--".toList

def labelToAscii (label : List Char) : Except HostNameError (List Char) := do
  if isAscii label then sizedLabel label
  else
    let label ← prepared label
    if isAscii label then sizedLabel label
    else if punycodeMark.isPrefixOf label then .error .markedLabel
    else sizedLabel (punycodeMark ++ Punycode.encode label)

/-! ## Names -/

/-- The full stops of other scripts also separate labels. -/
def isFullStop (c : Char) : Bool := c ∈ ['.', '\u3002', '\uFF0E', '\uFF61']

/-- Checks a name in ASCII. Only its last label may be empty. -/
def checkAscii (name : List Char) : Except HostNameError Unit := do
  let labels := pieces (· = '.') name
  let _ ← labels.dropLast.mapM sizedLabel
  if (labels.getLast?.getD []).length ≤ maxLabelLength then .ok () else .error .tooLongLastLabel

/-- A full stop at the end of a name is kept. -/
def toAscii (name : List Char) : Except HostNameError (List Char) := do
  if isAscii name then (checkAscii name).map fun _ => name
  else
    let labels := pieces isFullStop name
    let endsWithStop := labels.getLast? = some []
    let ascii ← (if endsWithStop then labels.dropLast else labels).mapM labelToAscii
    .ok (['.'].intercalate ascii ++ if endsWithStop then ['.'] else [])

/-- A name in small letters, up to a percent sign, behind which a zone may stand. The Kelvin sign is
the one character outside ASCII with a small letter in ASCII; labels with other such characters are
folded in any case. -/
def lowerCase (name : List Char) : List Char :=
  let (host, zone) := cutFirst '%' name
  host.map (fun c => if c = '\u212A' then 'k' else c.toLower) ++
    match zone with
    | some z => '%' :: z
    | none => []

end HostName

end PocketCalculator
