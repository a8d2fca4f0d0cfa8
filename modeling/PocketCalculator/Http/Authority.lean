import PocketCalculator.Decimal.Natural
import PocketCalculator.Http.Address
import PocketCalculator.Http.HostName
import PocketCalculator.Http.Percent
import PocketCalculator.Text.Integer

/-!
# The authority of a target

An authority names a host, with a user and a password in front and a port behind, if there are any.
An address of version 6 stands in brackets, since it has colons in it.
-/

namespace PocketCalculator

/-- Why a text is no authority. -/
inductive AuthorityError where
  /-- A bracket without its partner, or text beside the brackets of an address. -/
  | misplacedBracket
  | notAnAddress (text : String)
  | version4InBrackets
  | malformedLaterVersion
  /-- Characters that stand for a separator in another form. -/
  | hiddenSeparator (authority : String)
  | portNotANumber (text : String)
  | portTooLong (e : IntegerError)
  | portOutOfRange
  | hostName (e : HostNameError)
deriving DecidableEq, Repr

def AuthorityError.message : AuthorityError → String
  | .misplacedBracket => "Invalid IPv6 URL"
  | .notAnAddress text => quote text ++ " does not appear to be an IPv4 or IPv6 address"
  | .version4InBrackets => "An IPv4 address cannot be in brackets"
  | .malformedLaterVersion => "IPvFuture address is invalid"
  | .hiddenSeparator authority =>
    s!"netloc '{authority}' contains invalid characters under NFKC normalization"
  | .portNotANumber text => "Port could not be cast to integer value as " ++ quote text
  | .portTooLong e => e.message
  | .portOutOfRange => "Port out of range 0-65535"
  | .hostName e => e.message

structure Authority where
  user : List Char
  password : List Char
  host : List Char
  port : List Char
deriving DecidableEq

namespace Authority

/-! ## Checking a text -/

/-- Checks an address in brackets. -/
def checkAddress (s : List Char) : Except AuthorityError Unit :=
  if s.head? = some 'v' then
    if isLaterVersion s then .ok () else .error .malformedLaterVersion
  else if isVersion4 s then .error .version4InBrackets
  else if isVersion6 s then .ok ()
  else .error (.notAnAddress (String.ofList s))

/-- Checks the place behind the last `@` of a text that has brackets. An address in brackets has
nothing in front of it, and behind it nothing but a port. A host without brackets has to be an
address, too. -/
def checkBracketedPlace (place : List Char) : Except AuthorityError Unit :=
  match cutFirst '[' place with
  | (before, some r) =>
    let (address, behind) := cutFirst ']' r
    if before = [] ∧ (behind.getD []).head?.all (· = ':') then checkAddress address
    else .error .misplacedBracket
  | (_, none) => checkAddress (cutFirst ':' place).1

/-- Brackets of both kinds occur, or none. -/
def checkBrackets (s : List Char) : Except AuthorityError Unit :=
  match s.contains '[', s.contains ']' with
  | false, false => .ok ()
  | true, true => checkBracketedPlace (cutLast '@' s).2
  | _, _ => .error .misplacedBracket

/-- Characters outside ASCII that stand, alone or among others, for a separator of a target. -/
def hiddenSeparators : List Char :=
  ['\u2047', '\u2048', '\u2049', '\u2100', '\u2101', '\u2105', '\u2106', '\u2A74', '\uFE13',
    '\uFE16', '\uFE55', '\uFE56', '\uFE5F', '\uFE6B', '\uFF03', '\uFF0F', '\uFF1A', '\uFF1F',
    '\uFF20']

def check (s : List Char) : Except AuthorityError Unit := do
  checkBrackets s
  if s.any (hiddenSeparators.contains ·) then .error (.hiddenSeparator (String.ofList s))
  else .ok ()

/-! ## Its parts -/

/-- The parts of a text. The last `@` ends the user and the password, and the first colon outside
brackets separates the port. -/
def ofText (s : List Char) : Authority :=
  let (login, place) := cutLast '@' s
  let (user, password) := cutFirst ':' (login.getD [])
  let (host, port) :=
    match cutFirst '[' place with
    | (_, some r) =>
      let (host, behind) := cutFirst ']' r
      (host, (cutFirst ':' (behind.getD [])).2)
    | (_, none) => cutFirst ':' place
  ⟨user, password.getD [], host, port.getD []⟩

def maxPort : Nat := 65535

/-- The number of the port, with zero for none. -/
def portNumber (a : Authority) : Except AuthorityError Nat :=
  if a.port = [] then .ok 0
  else if a.port.all Char.isDigit then
    match readInteger (String.ofList a.port) with
    | .ok n => if n.toNat ≤ maxPort then .ok n.toNat else .error .portOutOfRange
    | .error e => .error (.portTooLong e)
  else .error (.portNotANumber (String.ofList a.port))

/-- Characters of a user or password that are not escaped. -/
def isLoginChar (c : Char) : Bool := c.isAlphanum || c ∈ "_.-~%!$&'()*+,;=".toList

/-- The authority in ASCII, without a port that is zero, and without a password if no user is named.
A wrong host is reported before a wrong port. -/
def toAscii (a : Authority) : Except AuthorityError (List Char) := do
  let host ← (HostName.toAscii (HostName.lowerCase a.host)).mapError .hostName
  let port ← a.portNumber
  let login :=
    if a.user = [] then []
    else percentEncode isLoginChar a.user ++
      (if a.password = [] then [] else ':' :: percentEncode isLoginChar a.password) ++ ['@']
  let host := if host.contains ':' then '[' :: host ++ [']'] else host
  .ok (login ++ host ++ if port = 0 then [] else ':' :: (natText port).toList)

end Authority

end PocketCalculator
