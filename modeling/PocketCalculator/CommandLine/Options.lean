import PocketCalculator.CommandLine.Usage

/-!
# Options and operands

The arguments of a command are options, which begin with a dash, and operands. An option that takes
a value has it behind an equals sign or as the next argument. After `--` everything is an operand.
A single dash is an operand too.
-/

namespace PocketCalculator.CommandLine

/-- An option that a command knows. -/
structure OptionForm where
  name : String
  takesValue : Bool
deriving DecidableEq, Repr

/-- How a command treats its arguments. -/
structure Grammar where
  forms : List OptionForm
  /-- Unknown options are operands rather than errors. -/
  passUnknown : Bool
  /-- Options may follow operands. -/
  mixed : Bool
deriving DecidableEq, Repr

/-- An option as it was given. -/
structure OptionUse where
  name : String
  value : Option String
deriving DecidableEq, Repr

/-- What a single argument is, before the next one is looked at. -/
inductive Reading where
  | endOfOptions
  | operand
  | use (u : OptionUse)
  | needsValue (name : String)
deriving DecidableEq, Repr

/-- The part before the first equals sign, and the part behind it if there is one. -/
def splitAtEquals : List Char → List Char × Option (List Char)
  | [] => ([], none)
  | c :: r => if c = '=' then ([], some r) else ((c :: (splitAtEquals r).1), (splitAtEquals r).2)

def readKnown (f : OptionForm) (given : Option String) : Except UsageError Reading :=
  match f.takesValue, given with
  | true, some v => .ok (.use ⟨f.name, some v⟩)
  | true, none => .ok (.needsValue f.name)
  | false, none => .ok (.use ⟨f.name, none⟩)
  | false, some _ => .error (.valueNotTaken f.name)

/-- An option with one dash is unknown by its first letter, and nothing is suggested for it. -/
def unknownOption (known : List String) (arg : List Char) : UsageError :=
  match arg with
  | '-' :: '-' :: _ =>
    let name := String.ofList (splitAtEquals arg).1
    .unknownOption name (similarNames name known)
  | _ => .unknownOption (String.ofList (arg.take 2)) []

def Grammar.read (g : Grammar) (arg : String) : Except UsageError Reading :=
  match arg.toList with
  | ['-', '-'] => .ok .endOfOptions
  | '-' :: c :: r =>
    let cs := '-' :: c :: r
    let name := String.ofList (splitAtEquals cs).1
    match g.forms.find? (·.name = name) with
    | some f => readKnown f ((splitAtEquals cs).2.map String.ofList)
    | none =>
      if g.passUnknown then .ok .operand
      else .error (unknownOption (g.forms.map OptionForm.name) cs)
  | _ => .ok .operand

/-- Options and operands, each in the order given. -/
def Grammar.scan (g : Grammar) : List String → Except UsageError (List OptionUse × List String)
  | [] => .ok ([], [])
  | arg :: rest => do
    match ← g.read arg with
    | .endOfOptions => .ok ([], rest)
    | .operand =>
      if g.mixed then
        let (us, os) ← g.scan rest
        .ok (us, arg :: os)
      else .ok ([], arg :: rest)
    | .use u =>
      let (us, os) ← g.scan rest
      .ok (u :: us, os)
    | .needsValue name =>
      match rest with
      | [] => .error (.valueMissing name)
      | v :: rest' =>
        let (us, os) ← g.scan rest'
        .ok (⟨name, some v⟩ :: us, os)

/-- The value of an option; of several uses the last one counts. -/
def lastValue? (us : List OptionUse) (name : String) : Option String :=
  (us.reverse.find? (·.name = name)).bind (·.value)

def isUsed (us : List OptionUse) (name : String) : Bool := us.any (·.name = name)

end PocketCalculator.CommandLine
