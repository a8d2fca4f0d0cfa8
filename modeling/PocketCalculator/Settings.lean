import PocketCalculator.Decimal.WholePart
import PocketCalculator.Json
import PocketCalculator.Text.Integer
import PocketCalculator.Text.Uppercase

/-!
# Settings

Settings come in three layers: defaults, then the variables of the environment, then single fields
that are overridden. Fields can also be given as the members of a JSON object.
-/

namespace PocketCalculator

structure Settings where
  host : String
  port : Int
  debug : Bool
  logLevel : String
  maxSessions : Int
deriving DecidableEq

/-- The variables that are set. -/
abbrev Environment := String → Option String

namespace Settings

def default : Settings := ⟨"127.0.0.1", 5000, false, "WARNING", 1000⟩

/-! ## The environment -/

/-- Capitals of other scripts have no small letters among those of the four words, so folding the
case of ASCII letters is enough. -/
def isTruthy (s : String) : Bool :=
  String.ofList ((trimEnds isBlank s.toList).map Char.toLower) ∈ ["1", "true", "yes", "on"]

def integerVariable (env : Environment) (name : String) (otherwise : Int) :
    Except IntegerError Int :=
  match env name with
  | some text => readInteger text
  | none => .ok otherwise

/-- Of two variables that hold no number the one for the port is reported. -/
def ofEnvironment (env : Environment) : Except IntegerError Settings := do
  let port ← integerVariable env "KEYCALC_PORT" default.port
  let maxSessions ← integerVariable env "KEYCALC_MAX_SESSIONS" default.maxSessions
  .ok {
    host := (env "KEYCALC_HOST").getD default.host
    port
    debug := isTruthy ((env "KEYCALC_DEBUG").getD "")
    logLevel := upperCase ((env "KEYCALC_LOG_LEVEL").getD default.logLevel)
    maxSessions }

/-! ## Overriding fields -/

structure Overrides where
  host : Option String := none
  port : Option Int := none
  debug : Option Bool := none
  logLevel : Option String := none
  maxSessions : Option Int := none
deriving DecidableEq

def override (s : Settings) (o : Overrides) : Settings where
  host := o.host.getD s.host
  port := o.port.getD s.port
  debug := o.debug.getD s.debug
  logLevel := o.logLevel.getD s.logLevel
  maxSessions := o.maxSessions.getD s.maxSessions

def members (s : Settings) : List (String × Json) :=
  [("host", .string s.host), ("port", .integer s.port), ("debug", .bool s.debug),
    ("log_level", .string s.logLevel), ("max_sessions", .integer s.maxSessions)]

def toJson (s : Settings) : Json := .object s.members

/-! ## Fields given as JSON members -/

/-- Why members are not the fields of settings. -/
inductive MemberError where
  | unknownField (name : String)
  /-- The name `self` stands for the settings themselves. -/
  | reserved (operation : String)
deriving DecidableEq, Repr

def MemberError.message : MemberError → String
  | .unknownField name => s!"Settings.__init__() got an unexpected keyword argument '{name}'"
  | .reserved operation => s!"Settings.{operation}() got multiple values for argument 'self'"

def fieldNames : List String := default.members.map (·.1)

/-- Settings as JSON, with the given values in place of their own. Values are taken as they are,
but null overrides nothing, whatever its name. -/
def overrideMembers (s : Settings) (given : List (String × Json)) : Except MemberError Json :=
  if given.any (·.1 = "self") then .error (.reserved "override")
  else
    (given.filter (!·.2.isNull)).foldlM putField s.members |>.map .object
where
  putField (ms : List (String × Json)) : String × Json → Except MemberError (List (String × Json))
    | (name, v) => if name ∈ fieldNames then .ok (Json.putMember ms name v)
      else .error (.unknownField name)

/-- Checks that members name fields; the first one that does not is reported. -/
def checkMembers (given : List (String × Json)) : Except MemberError Unit :=
  given.forM fun (name, _) =>
    if name = "self" then .error (.reserved "__init__")
    else if name ∈ fieldNames then .ok ()
    else .error (.unknownField name)

/-! ## The limit of sessions -/

/-- A value that cannot be compared with a number, by the name of its type. -/
structure LimitError where
  typeName : String
deriving DecidableEq, Repr

def LimitError.message (e : LimitError) : String :=
  s!"'>' not supported between instances of '{e.typeName}' and 'int'"

/-- A limit may be any number, of which the whole part counts. A truth value counts as one or
zero. -/
def readLimit : Json → Except LimitError Int
  | .integer n => .ok n
  | .number x => .ok (wholePart x)
  | .bool b => .ok b.toInt
  | .null => .error ⟨"NoneType"⟩
  | .string _ => .error ⟨"str"⟩
  | .array _ => .error ⟨"list"⟩
  | .object _ => .error ⟨"dict"⟩

end Settings

end PocketCalculator
