import PocketCalculator.Text.Quoted
import PocketCalculator.Text.Similarity

/-!
# Usage errors

What can be wrong with the arguments of a command, and how it is worded. For an unknown option or
command the message suggests the names that are similar to it.
-/

namespace PocketCalculator.CommandLine

inductive UsageError where
  | unknownOption (name : String) (similar : List String)
  | valueMissing (option : String)
  | valueNotTaken (option : String)
  | notAnInteger (option value : String)
  | notAChoice (option value : String) (choices : List String)
  | argumentMissing (name : String)
  | argumentsLeft (args : List String)
  | unknownLabel (label : Char)
  | commandMissing
  | unknownCommand (name : String) (similar : List String)
deriving DecidableEq, Repr

namespace UsageError

/-- What is wrong with a label. -/
def labelDetail (c : Char) : String := s!"unknown key {quote (String.singleton c)}"

def suggestion : List String → String
  | [] => ""
  | [name] => s!" Did you mean {quote name}?"
  | names => " (Did you mean one of: " ++ ", ".intercalate (names.map quote) ++ "?)"

def message : UsageError → String
  | .unknownOption name similar => s!"No such option {quote name}." ++ suggestion similar
  | .valueMissing option => s!"Option {quote option} requires an argument."
  | .valueNotTaken option => s!"Option {quote option} does not take a value."
  | .notAnInteger option value =>
    s!"Invalid value for {quote option}: {quote value} is not a valid integer."
  | .notAChoice option value choices =>
    s!"Invalid value for {quote option}: {quote value} is not one of " ++
      ", ".intercalate (choices.map quote) ++ "."
  | .argumentMissing name => s!"Missing argument {quote name}."
  | .argumentsLeft [arg] => s!"Got unexpected extra argument ({arg})"
  | .argumentsLeft args =>
    "Got unexpected extra arguments (" ++ " ".intercalate args ++ ")"
  | .unknownLabel c => s!"Invalid value for LABELS: {labelDetail c}"
  | .commandMissing => "Missing command."
  | .unknownCommand name similar => s!"No such command {quote name}." ++ suggestion similar

/-- The message without the part that names the argument. -/
def detail : UsageError → String
  | .unknownLabel c => labelDetail c
  | e => e.message

def line (e : UsageError) : String := "Error: " ++ e.message

end UsageError

end PocketCalculator.CommandLine
