import PocketCalculator.Numeral

/-!
# Tokens

An expression is shown as numerals and operators with one space between them. A token is read back
from its text exactly: the text of what was read is the text it was read from.
-/

namespace PocketCalculator

/-- No numeral reads as an operator. -/
theorem Operator.ofText?_numeral_text (n : Numeral) : Operator.ofText? n.text = none := by
  cases h : Operator.ofText? n.text with
  | none => rfl
  | some o =>
    have ht := Operator.text_of_ofText? h
    have hn := Numeral.ofText?_text n
    rw [← ht] at hn
    cases o <;> cases hn

inductive Token where
  | number (n : Numeral)
  | operator (o : Operator)
deriving DecidableEq

namespace Token

def text : Token → String
  | .number n => n.text
  | .operator o => o.text

def ofText? (s : String) : Option Token :=
  match Operator.ofText? s with
  | some o => some (.operator o)
  | none => (Numeral.ofText? s).map .number

theorem ofText?_text_operator (o : Operator) :
    ofText? (text (.operator o)) = some (.operator o) := by
  simp [ofText?, text]

@[simp] theorem ofText?_text (t : Token) : ofText? t.text = some t := by
  cases t with
  | number n => simp [ofText?, text, Operator.ofText?_numeral_text]
  | operator o => exact ofText?_text_operator o

theorem text_injective : Function.Injective text := by
  intro t u h
  have hread := congrArg ofText? h
  simpa using hread

theorem text_of_ofText? {s : String} {t : Token} (h : ofText? s = some t) : t.text = s := by
  unfold ofText? at h
  split at h
  · rename_i o ho
    obtain rfl := Option.some.inj h
    exact Operator.text_of_ofText? ho
  · obtain ⟨n, hn, rfl⟩ := Option.map_eq_some_iff.1 h
    exact Numeral.text_of_ofText? hn

def isNumber : Token → Bool
  | .number _ => true
  | .operator _ => false

def texts (ts : List Token) : List String := ts.map text

theorem texts_injective : Function.Injective texts :=
  fun _ _ => (List.map_inj_right text_injective).1

/-- Whether the expression could be evaluated as it stands. -/
def endsWithNumber (ts : List Token) : Bool :=
  ts.getLast?.any isNumber

@[simp] theorem endsWithNumber_number (ts : List Token) (n : Numeral) :
    endsWithNumber (ts ++ [Token.number n]) = true := by
  simp [endsWithNumber, isNumber]

@[simp] theorem endsWithNumber_operator (ts : List Token) (o : Operator) :
    endsWithNumber (ts ++ [Token.operator o]) = false := by
  simp [endsWithNumber, isNumber]

end Token

/-- Token texts with one space between neighbours. -/
def joinTexts (ts : List String) : String := " ".intercalate ts

/-- The expression frozen together with its result. -/
def frozenText (ts : List String) (result : String) : String :=
  s!"{joinTexts ts} = {result}"

/-- For token texts of any origin: whatever stands last and is no operator counts as a number. -/
def textsEndWithNumber (ts : List String) : Bool :=
  ts.getLast?.any fun s => (Operator.ofText? s).isNone

end PocketCalculator
