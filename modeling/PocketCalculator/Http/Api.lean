import PocketCalculator.Http.KeyRequest
import PocketCalculator.Http.Request
import PocketCalculator.Registry
import PocketCalculator.Settings

/-!
# The HTTP interface

Sessions are created, read, used and deleted by requests under `/api`. A request is answered from
the registry and the request alone, and leaves a registry behind. Each comes with the stamp for the
session that it may create.
-/

namespace PocketCalculator

/-! ## Responses -/

/-- A status with a JSON body, if it has one. -/
structure Response where
  status : Nat
  body : Option Json

namespace Response

def empty (status : Nat) : Response := ⟨status, none⟩

def ok (v : Json) : Response := ⟨200, some v⟩

def error (status : Nat) (message : String) : Response :=
  ⟨status, some (.object [("error", .string message)])⟩

def sessionNotFound : Response := error 404 "Session not found"

def bodyMissing : Response := error 400 "No JSON data provided"

end Response

/-! ## Routes -/

inductive Route where
  | health
  | keypad
  | sessions
  | session (id : String)
  | sessionKeys (id : String)
  | sessionClear (id : String)
  | evaluate
  /-- A file beside the interface; there are none. -/
  | file
deriving DecidableEq, Repr

namespace Route

/-- The name of a file may have slashes in it but not in front, and no line feed but in front. -/
def isFileName (segments : List String) : Bool :=
  match ("/".intercalate segments).toList with
  | [] => false
  | c :: r => c ≠ '/' && '\n' ∉ r

def ofSegments? : List String → Option Route
  | ["api", "health"] => some .health
  | ["api", "keypad"] => some .keypad
  | ["api", "sessions"] => some .sessions
  | ["api", "sessions", id] => if id = "" then none else some (.session id)
  | ["api", "sessions", id, "keys"] => if id = "" then none else some (.sessionKeys id)
  | ["api", "sessions", id, "clear"] => if id = "" then none else some (.sessionClear id)
  | ["api", "evaluate"] => some .evaluate
  | "static" :: name :: rest => if isFileName (name :: rest) then some .file else none
  | _ => none

/-- The methods of each resource at a path. What can be read can also be asked for its head, and
everything for its options. -/
def methodSets : Route → List (List Method)
  | .health | .keypad | .file => [[.get, .head, .options]]
  | .sessions => [[.get, .head, .options], [.post, .options]]
  | .session _ => [[.get, .head, .options], [.delete, .options]]
  | .sessionKeys _ | .sessionClear _ | .evaluate => [[.post, .options]]

def allows (r : Route) (m : Method) : Bool := r.methodSets.any (m ∈ ·)

/-- Where a path leads for a method. -/
inductive Match where
  | found (r : Route)
  /-- The path with its runs of slashes merged has a route. -/
  | moved
  | methodNotAllowed
  | notFound
  /-- No resource can be used over a web socket. -/
  | wrongProtocol

def ofPath (path : List Char) (m : Method) : Match :=
  let direct := ofSegments? (segments path)
  let merged := ofSegments? (segments (mergeSlashes path))
  match direct, merged with
  | some r, h =>
    if r.allows m then .found r
    else if h.any (·.allows m) then .moved
    else .methodNotAllowed
  | none, some r => if r.allows m then .moved else .methodNotAllowed
  | none, none => .notFound

/-- Where a path leads over a web socket. A resource without the method is reported first. -/
def ofSocketPath (path : List Char) (m : Method) : Match :=
  let routes := [path, mergeSlashes path].filterMap fun p => ofSegments? (segments p)
  if routes.isEmpty then .notFound
  else if routes.all (·.methodSets.all (m ∈ ·)) then .wrongProtocol
  else .methodNotAllowed

def ofRequest (q : Request) : Match :=
  if q.destination.isWebSocket then ofSocketPath q.destination.path q.method
  else ofPath q.destination.path q.method

end Route

/-! ## Answers -/

def keypadJson : Json :=
  .object [("rows", .array (Key.rows.map fun row => .strings (row.map Key.label)))]

def sessionJson (id : String) (d : Display) : Json := d.toJsonFor (some id)

def SessionInfo.toJson (i : SessionInfo) : Json :=
  .object [("session_id", .string i.id), ("created_at", .string i.createdAt),
    ("key_count", .integer i.keyCount)]

def sessionsJson (r : Registry) : Json := .array (r.list.map SessionInfo.toJson)

def evaluationJson (expression : String) : Json :=
  .object [("expression", .string expression), ("result", .string (evaluate expression))]

namespace Registry

/-- Answers a request for keys. Labels are checked before the session is looked up. -/
def answerKeys (r : Registry) (id : String) (body : Body) : Registry × Response :=
  match body.json? with
  | some (.object members) =>
    match requestedLabels members with
    | .error (.unknownKey e) =>
      (r, ⟨400, some (.object [("error", .string e.message), ("key", .string e.label)])⟩)
    | .error e => (r, .error 400 e.message)
    | .ok labels =>
      match r.press id labels with
      | (r', .pressed d) => (r', .ok (sessionJson id d))
      | (r', .unknownSession) => (r', .sessionNotFound)
      -- A label that the check had let through would be a fault of the server.
      | (r', .unknownKey _) => (r', .empty 500)
  | _ => (r, .bodyMissing)

def answerEvaluate (body : Body) : Response :=
  match body.json? with
  | some (.object members) =>
    match Json.member? members "expression" with
    | some (.string s) => .ok (evaluationJson s)
    | _ => .error 400 "expression is required"
  | _ => .bodyMissing

/-- Answers a request for a resource that exists. With a limit that is no number a session is added,
but the request fails. -/
def answerRoute (r : Registry) (limit : Except Settings.LimitError Int) (stamp : Stamp) :
    Route → Method → Body → Registry × Response
  | _, .options, _ => (r, .empty 200)
  | .health, _, _ => (r, .ok (.object [("ok", .bool true)]))
  | .keypad, _, _ => (r, .ok keypadJson)
  | .sessions, .post, _ =>
    match limit with
    | .ok n =>
      let (r', s) := r.create stamp n
      (r', ⟨201, some (sessionJson s.id s.calculator.display)⟩)
    | .error _ => (r.add stamp, .empty 500)
  | .sessions, _, _ => (r, .ok (.object [("sessions", sessionsJson r)]))
  | .session id, .delete, _ =>
    match r.delete id with
    | (r', true) => (r', .ok (.object [("ok", .bool true)]))
    | (r', false) => (r', .sessionNotFound)
  | .session id, _, _ =>
    match r.display? id with
    | some d => (r, .ok (sessionJson id d))
    | none => (r, .sessionNotFound)
  | .sessionKeys id, _, body => r.answerKeys id body
  | .sessionClear id, _, _ =>
    match r.clear id with
    | (r', some d) => (r', .ok (sessionJson id d))
    | (r', none) => (r', .sessionNotFound)
  | .evaluate, _, body => (r, answerEvaluate body)
  | .file, _, _ => (r, .empty 404)

/-- Answers any request. A host that is no host name is reported before anything else. -/
def answer (limit : Except Settings.LimitError Int) (r : Registry) (stamp : Stamp) (q : Request) :
    Registry × Response :=
  if !q.destination.hasProperHost then (r, .empty 400)
  else
    match Route.ofRequest q with
    | .found route =>
      let (r', p) := r.answerRoute limit stamp route q.method q.body
      if q.asksForHeadOnly then (r', .empty p.status) else (r', p)
    | .moved => (r, .empty 308)
    | .methodNotAllowed => (r, .empty 405)
    | .notFound => (r, .empty 404)
    | .wrongProtocol => (r, .empty 400)

/-- Answers requests, each with its stamp, one after the other. -/
def answerAll (limit : Except Settings.LimitError Int) (r : Registry) :
    List (Stamp × Request) → Registry × List Response
  | [] => (r, [])
  | (stamp, q) :: qs =>
    let (r', p) := r.answer limit stamp q
    let (r'', ps) := r'.answerAll limit qs
    (r'', p :: ps)

end Registry

end PocketCalculator
