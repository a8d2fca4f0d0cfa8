import PocketCalculator.Http.Authority

/-!
# Request targets

Which resource a request means is decided by the path of its target. A target is cut into a scheme,
an authority, a path and a query; the query and a fragment behind it do not matter. What is left of
the path may again begin with a scheme or an authority: a second authority is only checked, and a
third one belongs to the path.
-/

namespace PocketCalculator

/-! ## The parts of a target -/

structure Target where
  scheme : List Char
  authority : List Char
  path : List Char
  query : List Char

namespace Target

/-- Blanks and control characters of ASCII in front of a target do not count. -/
def isControlOrSpace (c : Char) : Bool := c.toNat ≤ 0x20

def isTabOrLineBreak (c : Char) : Bool := c = '\t' || c = '\n' || c = '\r'

/-- Tabs and line breaks are left out wherever they stand. -/
def clean (s : List Char) : List Char :=
  (s.dropWhile isControlOrSpace).filter (!isTabOrLineBreak ·)

def isSchemeChar (c : Char) : Bool := c.isAlphanum || c ∈ ['+', '-', '.']

/-- Separates a scheme, which begins with a letter and ends at a colon. Its case does not count. -/
def splitScheme (s : List Char) : List Char × List Char :=
  if s.head?.any Char.isAlpha then
    match s.dropWhile isSchemeChar with
    | ':' :: r => ((s.takeWhile isSchemeChar).map Char.toLower, r)
    | _ => ([], s)
  else ([], s)

def isPartEnd (c : Char) : Bool := c = '/' || c = '?' || c = '#'

/-- Separates an authority, which two slashes announce. -/
def splitAuthority : List Char → List Char × List Char
  | '/' :: '/' :: r => (r.takeWhile (!isPartEnd ·), r.dropWhile (!isPartEnd ·))
  | s => ([], s)

def ofText (s : List Char) : Except AuthorityError Target := do
  let (scheme, rest) := splitScheme (clean s)
  let (authority, rest) := splitAuthority rest
  Authority.check authority
  let (path, query) := cutFirst '?' (cutFirst '#' rest).1
  .ok ⟨scheme, authority, path, query.getD []⟩

/-- The path with the query, unless that is empty. -/
def resource (t : Target) : List Char :=
  t.path ++ if t.query = [] then [] else '?' :: t.query

/-! ## Paths -/

/-- A path that begins with a scheme or an authority, with the authority in its ASCII form. -/
def innerPath (t : Target) : Except AuthorityError (List Char) := do
  let authority ← (Authority.ofText t.authority).toAscii
  .ok ((if t.scheme = [] then [] else t.scheme ++ [':']) ++
    (if authority = [] then [] else '/' :: '/' :: authority) ++ t.path)

/-- The host of targets without an authority. -/
def defaultAuthority : List Char := "localhost".toList

/-- The authority in ASCII. Brackets that were not there before the names were folded count too. -/
def finalAuthority (t : Target) : Except AuthorityError (List Char) := do
  let given := if t.authority = [] then defaultAuthority else t.authority
  let authority ← (Authority.ofText given).toAscii
  Authority.checkBrackets authority
  .ok authority

end Target

/-! ## Where a request goes -/

structure Destination where
  scheme : String
  /-- The host, with user, password and port. -/
  authority : List Char
  /-- The decoded path without the slashes in front. -/
  path : List Char
deriving DecidableEq

namespace Destination

/-- The parts of the path are checked before the names in it, and these before those in front. -/
def ofTarget (target : String) : Except AuthorityError Destination := do
  let outer ← Target.ofText target.toList
  let middle ← Target.ofText outer.resource
  let inner ← Target.ofText middle.path
  let path ← inner.innerPath
  let authority ← outer.finalAuthority
  .ok {
    scheme := String.ofList outer.scheme
    authority
    path := (percentDecode path).dropWhile (· = '/') }

def isWebSocket (d : Destination) : Bool := d.scheme = "ws" || d.scheme = "wss"

/-- What stands in front of the first colon has to be a host name. -/
def hasProperHost (d : Destination) : Bool :=
  (HostName.toAscii (d.authority.takeWhile (· ≠ ':'))).isOk

end Destination

/-! ## Segments -/

/-- Replaces each run of slashes by one slash. -/
def mergeSlashes : List Char → List Char
  | '/' :: '/' :: r => mergeSlashes ('/' :: r)
  | c :: r => c :: mergeSlashes r
  | [] => []

def segments (path : List Char) : List String :=
  (pieces (· = '/') path).map String.ofList

end PocketCalculator
