import PocketCalculator.Http.Api
import PocketCalculator.Settings

/-!
# The app and its server

An app is the HTTP interface together with settings. A host hands them over, or else they are read
from the environment; the limit of sessions is looked up in them at each request. A server runs an
app at an address.
-/

namespace PocketCalculator

/-! ## The settings of an app -/

/-- Settings as an app stores them. A host may fill the fields with any values; nothing checks
them. -/
inductive AppSettings where
  | checked (s : Settings)
  /-- Fields that are not given have their defaults. -/
  | unchecked (fields : List (String × Json))

namespace AppSettings

def ofMembers (given : List (String × Json)) : Except Settings.MemberError AppSettings :=
  (Settings.checkMembers given).map fun _ => .unchecked given

/-- The limit of sessions, if it can be compared with their number. -/
def limit : AppSettings → Except Settings.LimitError Int
  | .checked s => .ok s.maxSessions
  | .unchecked fields =>
    match Json.member? fields "max_sessions" with
    | some v => Settings.readLimit v
    | none => .ok Settings.default.maxSessions

end AppSettings

/-! ## Apps -/

structure App where
  settings : AppSettings

namespace App

/-- The environment is read only if no settings are given. -/
def create (env : Environment) : Option AppSettings → Except IntegerError App
  | some given => .ok ⟨given⟩
  | none => (Settings.ofEnvironment env).map fun s => ⟨.checked s⟩

def answer (app : App) (r : Registry) (stamp : Stamp) (q : Request) : Registry × Response :=
  r.answer app.settings.limit stamp q

end App

/-! ## Servers -/

/-- A server that has been started. -/
structure Server where
  app : App
  host : String
  port : Int
  debug : Bool

/-- Creates the app with the settings and runs it where they say. -/
def Server.start (env : Environment) (s : Settings) : Except IntegerError Server := do
  let app ← App.create env (some (.checked s))
  .ok ⟨app, s.host, s.port, s.debug⟩

end PocketCalculator
