import PocketCalculator.CommandLine.Options
import PocketCalculator.Settings

/-!
# Commands

`keys` presses keys on a new calculator, `eval` evaluates one expression, and `serve` starts the
HTTP interface. In front of the command stand the options that apply to all of them.
-/

namespace PocketCalculator.CommandLine

inductive Command where
  | keys (labels : List String) (trace : Bool)
  | eval (expression : String)
  | serve (host : Option String) (port : Option Int) (debug : Option Bool)
deriving DecidableEq, Repr

inductive CommandName where
  | keys
  | eval
  | serve
deriving DecidableEq, Repr

/-- Why no command is run. -/
inductive Stop where
  | usage (e : UsageError)
  | help
deriving DecidableEq, Repr

def CommandName.ofText? (s : String) : Option CommandName :=
  match s with
  | "keys" => some .keys
  | "eval" => some .eval
  | "serve" => some .serve
  | _ => none

def commandNames : List String := ["keys", "eval", "serve"]

def helpForm : OptionForm := ⟨"--help", false⟩

/-- Scans arguments; a request for help stops before anything else is checked. -/
def Grammar.options (g : Grammar) (args : List String) :
    Except Stop (List OptionUse × List String) := do
  let (us, os) ← (g.scan args).mapError .usage
  if isUsed us "--help" then .error .help else .ok (us, os)

/-! ## The options of a command -/

/-- Labels may begin with a dash, and so may expressions. -/
def keysGrammar : Grammar := ⟨[⟨"--trace", false⟩, helpForm], true, true⟩

def evalGrammar : Grammar := ⟨[helpForm], true, true⟩

def serveGrammar : Grammar :=
  ⟨[⟨"--host", true⟩, ⟨"--port", true⟩, ⟨"--debug", false⟩, ⟨"--no-debug", false⟩, helpForm],
    false, true⟩

def readPort (us : List OptionUse) : Except Stop (Option Int) :=
  match lastValue? us "--port" with
  | none => .ok none
  | some text =>
    match readInteger text with
    | .ok n => .ok (some n)
    | .error _ => .error (.usage (.notAnInteger "--port" text))

/-- Of `--debug` and `--no-debug` the last one counts. -/
def readDebug (us : List OptionUse) : Option Bool :=
  (us.reverse.find? fun u => u.name = "--debug" || u.name = "--no-debug").map (·.name = "--debug")

def Command.read (name : CommandName) (args : List String) : Except Stop Command :=
  match name with
  | .keys => do
    let (us, labels) ← keysGrammar.options args
    if labels.isEmpty then .error (.usage (.argumentMissing "LABELS..."))
    else .ok (.keys labels (isUsed us "--trace"))
  | .eval => do
    let (_, operands) ← evalGrammar.options args
    match operands with
    | [] => .error (.usage (.argumentMissing "EXPRESSION"))
    | [expression] => .ok (.eval expression)
    | _ :: more => .error (.usage (.argumentsLeft more))
  | .serve => do
    let (us, operands) ← serveGrammar.options args
    let port ← readPort us
    if operands.isEmpty then .ok (.serve (lastValue? us "--host") port (readDebug us))
    else .error (.usage (.argumentsLeft operands))

/-! ## The options in front of the command -/

def mainGrammar : Grammar := ⟨[⟨"--log-level", true⟩, helpForm], false, false⟩

def logLevelChoices : List String := ["debug", "info", "warning", "error"]

/-- Letter case does not count. No character outside ASCII folds to a piece of one of the names, so
lowering ASCII letters is enough. -/
def readLogLevel (us : List OptionUse) : Except Stop (Option String) :=
  match lastValue? us "--log-level" with
  | none => .ok none
  | some text =>
    if String.ofList (text.toList.map Char.toLower) ∈ logLevelChoices then
      .ok (some (String.ofList (text.toList.map Char.toUpper)))
    else .error (.usage (.notAChoice "--log-level" text logLevelChoices))

/-- The log level asked for, and what stands behind the options. -/
def readMainOptions (args : List String) : Except Stop (Option String × List String) := do
  let (us, operands) ← mainGrammar.options args
  let level ← readLogLevel us
  .ok (level, operands)

/-- The log level asked for, the command, and its arguments. What stands in place of a command may
be an option that was taken for an operand; what is wrong with it is reported first. -/
def readInvocation (args : List String) :
    Except Stop (Option String × CommandName × List String) := do
  let (level, operands) ← readMainOptions args
  match operands with
  | [] => .error (.usage .commandMissing)
  | name :: rest =>
    match CommandName.ofText? name with
    | some c => .ok (level, c, rest)
    | none =>
      let _ ← readMainOptions operands
      .error (.usage (.unknownCommand name (similarNames name commandNames)))

end PocketCalculator.CommandLine
