import PocketCalculator.Text.Hexadecimal
import PocketCalculator.Text.Separated

/-!
# Internet addresses

Which texts are addresses of version 4, 6 or a later one. An address of version 6 has eight groups
of hexadecimal digits. Two colons in a row stand once for the groups that are left out, and the last
two groups may be written as an address of version 4.
-/

namespace PocketCalculator

/-- A number up to 255 without a leading zero. -/
def isOctet (s : List Char) : Bool :=
  s.all Char.isDigit && (s = ['0'] || s.head?.any (· ≠ '0')) && s.length ≤ 3 &&
    s.foldl (fun n c => 10 * n + (c.toNat - 48)) 0 ≤ 255

/-- Four octets between points. -/
def isVersion4 (s : List Char) : Bool :=
  let octets := pieces (· = '.') s
  octets.length = 4 && octets.all isOctet

def isHexDigit (c : Char) : Bool := (hexDigitValue? c).isSome

/-- One to four hexadecimal digits. -/
def isGroup (s : List Char) : Bool := s ≠ [] && s.length ≤ 4 && s.all isHexDigit

/-- How many groups a row of groups has. At the end of an address the last one may be an address of
version 4. -/
def groupCount? (atEnd : Bool) (s : List Char) : Option Nat :=
  let groups := pieces (· = ':') s
  let last := groups.getLast?.getD []
  if s = [] then some 0
  else if groups.all isGroup then some groups.length
  else if atEnd && groups.dropLast.all isGroup && isVersion4 last then some (groups.length + 1)
  else none

/-- Cuts a text at the first two colons in a row. -/
def cutDoubleColon : List Char → List Char × Option (List Char)
  | ':' :: ':' :: r => ([], some r)
  | c :: r =>
    let (before, behind) := cutDoubleColon r
    (c :: before, behind)
  | [] => ([], none)

/-- Groups left out between two colons are at least one. -/
def isGroupRow (s : List Char) : Bool :=
  match cutDoubleColon s with
  | (all, none) => groupCount? true all = some 8
  | (before, some behind) =>
    match groupCount? false before, groupCount? true behind with
    | some m, some n => m + n ≤ 7
    | _, _ => false

/-- A zone may stand behind a percent sign. -/
def isVersion6 (s : List Char) : Bool :=
  match cutFirst '%' s with
  | (address, none) => isGroupRow address
  | (address, some zone) => isGroupRow address && zone ≠ [] && !zone.contains '%'

/-- A `v`, the number of the version, a point, and any text. -/
def isLaterVersion (s : List Char) : Bool :=
  match s with
  | 'v' :: r =>
    match cutFirst '.' r with
    | (version, some address) => version ≠ [] && version.all isHexDigit && address ≠ []
    | _ => false
  | _ => false

end PocketCalculator
