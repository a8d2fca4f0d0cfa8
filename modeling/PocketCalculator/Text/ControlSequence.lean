/-!
# Control sequences of terminals

A control sequence is an escape character, an opening bracket, parameter characters from `0` to `?`,
intermediate characters from the space to `/`, and one final character from `@` to `~`. Messages are
printed without them. An escape that begins no complete sequence stays.
-/

namespace PocketCalculator

def escapeCharacter : Char := '\x1b'

def isParameter (c : Char) : Bool := '0' ≤ c && c ≤ '?'

def isIntermediate (c : Char) : Bool := ' ' ≤ c && c ≤ '/'

def isFinal (c : Char) : Bool := '@' ≤ c && c ≤ '~'

/-- What has been read of a control sequence, in reverse where it has any length. -/
inductive SequenceState where
  | outside
  | escape
  | parameters (read : List Char)
  | intermediates (read : List Char)
deriving DecidableEq, Repr

namespace SequenceState

/-- The characters that stay if the sequence is never completed. -/
def pending : SequenceState → List Char
  | .outside => []
  | .escape => [escapeCharacter]
  | .parameters read | .intermediates read => read.reverse

/-- The state after a character that begins, continues or completes a sequence. -/
def next? : SequenceState → Char → Option SequenceState
  | .outside, c => if c = escapeCharacter then some .escape else none
  | .escape, c => if c = '[' then some (.parameters ['[', escapeCharacter]) else none
  | .parameters read, c =>
    if isParameter c then some (.parameters (c :: read))
    else if isIntermediate c then some (.intermediates (c :: read))
    else if isFinal c then some .outside
    else none
  | .intermediates read, c =>
    if isIntermediate c then some (.intermediates (c :: read))
    else if isFinal c then some .outside
    else none

end SequenceState

/-- Removes the control sequences from the rest of a text. A broken sequence holds no second escape
character, so what was pending is kept as it is. -/
def dropSequences (state : SequenceState) : List Char → List Char
  | [] => state.pending
  | c :: r =>
    match state.next? c with
    | some s => dropSequences s r
    | none =>
      state.pending ++
        if c = escapeCharacter then dropSequences .escape r else c :: dropSequences .outside r

def plainText (s : String) : String := String.ofList (dropSequences .outside s.toList)

/-- A text without escape characters is printed as it is. -/
theorem dropSequences_of_notMem {s : List Char} (h : escapeCharacter ∉ s) :
    dropSequences .outside s = s := by
  induction s with
  | nil => rfl
  | cons c r ih =>
    simp only [List.mem_cons, not_or] at h
    simp [dropSequences, SequenceState.next?, SequenceState.pending, Ne.symm h.1, ih h.2]

end PocketCalculator
