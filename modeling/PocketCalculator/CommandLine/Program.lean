import PocketCalculator.CommandLine.Command
import PocketCalculator.CommandLine.Log
import PocketCalculator.Http.App
import PocketCalculator.Json.Printer
import PocketCalculator.Text.ControlSequence
import PocketCalculator.Text.Lines

/-!
# Running a command

The outcome of an invocation is what it prints, the exit status, and for `serve` the server that is
started. Nothing is printed on standard output when a label is wrong.
-/

namespace PocketCalculator.CommandLine

/-- What keeps any command from running. -/
inductive Failure where
  | setting (e : IntegerError)
  | unknownLevel (name : String)
deriving DecidableEq, Repr

def Failure.message : Failure → String
  | .setting e => e.message
  | .unknownLevel name => s!"Unknown level: {quote name}"

structure Outcome where
  exit : Nat
  stdout : List String := []
  stderr : List String := []
  failure : Option Failure := none
  /-- The server that is started. -/
  server : Option Server := none

namespace Outcome

/-- What is printed on standard error, line by line. -/
def errorLines (o : Outcome) : List String := o.stderr.flatMap textLines

def usage (e : UsageError) : Outcome := ⟨2, [], [plainText e.line], none, none⟩

def failed (f : Failure) : Outcome := ⟨1, [], [], some f, none⟩

/-- The help text is left to the terminal. -/
def stopped : Stop → Outcome
  | .usage e => usage e
  | .help => ⟨0, [], [], none, none⟩

end Outcome

/-! ## Keys -/

/-- The keys that arguments name, blanks left out. -/
def splitLabelChars : List Char → Except UsageError (List Key)
  | [] => .ok []
  | c :: r =>
    if isBlank c then splitLabelChars r
    else
      match Key.ofChar? c with
      | some k => (splitLabelChars r).map (k :: ·)
      | none => .error (.unknownLabel c)

def splitLabels (args : List String) : Except UsageError (List Key) :=
  splitLabelChars (args.flatMap String.toList)

/-- The display after each key, the key in front. -/
def traceLines (c : Calculator) : List Key → List String
  | [] => []
  | k :: r =>
    let c' := c.press k
    (Json.object (("key", .string k.label) :: c'.display.members)).write :: traceLines c' r

def stateLine (c : Calculator) : String := c.display.toJson.write

/-- What is logged while keys are pressed. Every report has the debug level, so at other levels
there is nothing to gather. -/
def keyLog (level : LogLevel) (ks : List Key) : List String :=
  if level.severity ≤ LogLevel.debug.severity then
    logLines level ((Calculator.initial.eventsAll ks).map .ofEvent)
  else []

def runKeys (level : LogLevel) (labels : List String) (trace : Bool) : Outcome :=
  match splitLabels labels with
  | .error e => .usage e
  | .ok ks => {
      exit := 0
      stdout :=
        if trace then traceLines .initial ks else [stateLine (Calculator.initial.pressAll ks)]
      stderr := keyLog level ks }

/-! ## Expressions -/

def evaluationRecord (expression : String) (e : EvaluationError) : LogRecord where
  level := .info
  source := "keycalc.cli"
  message :=
    if e.isDivisionByZero then s!"Division by zero: {e.message}"
    else s!"Cannot evaluate {quote expression}: {e.message}"

def runEval (level : LogLevel) (expression : String) : Outcome :=
  match compute expression with
  | .ok v => { exit := 0, stdout := [displayText v] }
  | .error e => {
      exit := 1
      stdout := [if e.isDivisionByZero then divisionLabel else errorLabel]
      stderr := logLines level [evaluationRecord expression e] }

/-! ## The server -/

def serverAddress (s : Settings) : String := s!"http://{s.host}:{intText s.port}"

def startRecord (s : Settings) : LogRecord where
  level := .info
  source := "keycalc.webapp.server"
  message := s!"Starting keycalc server on {serverAddress s}"

def runServe (env : Environment) (level : LogLevel) (s : Settings) : Outcome :=
  let access := plainText s!"Access at: {serverAddress s}"
  match Server.start env s with
  | .error e => { exit := 1, stderr := [access], failure := some (.setting e) }
  | .ok server => {
      exit := 0
      stderr := access :: logLines level [startRecord s]
      server := some server }

/-! ## Any command -/

def runCommand (env : Environment) (level : LogLevel) (s : Settings) : Command → Outcome
  | .keys labels trace => runKeys level labels trace
  | .eval expression => runEval level expression
  | .serve host port debug =>
    runServe env level (s.override { host := host, port := port, debug := debug })

/-- Settings with the log level asked for, and the level they name. -/
def prepare (env : Environment) (level : Option String) : Except Failure (Settings × LogLevel) := do
  let s ← (Settings.ofEnvironment env).mapError .setting
  let s := s.override { logLevel := level }
  let name := upperCase s.logLevel
  match LogLevel.ofName? name with
  | some l => .ok (s, l)
  | none => .error (.unknownLevel name)

/-- Runs the program. The environment is read before the arguments of the command are. -/
def run (env : Environment) (args : List String) : Outcome :=
  if args.isEmpty then ⟨2, [], [], none, none⟩
  else
    match readInvocation args with
    | .error stop => .stopped stop
    | .ok (level, name, rest) =>
      match prepare env level with
      | .error f => .failed f
      | .ok (s, l) =>
        match Command.read name rest with
        | .error stop => .stopped stop
        | .ok command => runCommand env l s command

end PocketCalculator.CommandLine
