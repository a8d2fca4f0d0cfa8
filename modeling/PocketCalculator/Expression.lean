import PocketCalculator.Token
import PocketCalculator.Text.Blank
import PocketCalculator.Text.Quoted

/-!
# Expressions

An expression is a numeral followed by any number of operators, each with a numeral after it. Its
text has blanks between the tokens. Reading names the first token of the wrong kind by its place.
Main statements: `Expression.texts_of_ofText`, what was read has the words of the text as tokens,
and `Expression.ofText_joinTexts`, which reads an expression back from its own text.
-/

namespace PocketCalculator

/-- What succeeds in two steps succeeds in the first. -/
theorem exists_of_bind_eq_ok {α β ε : Type} {x : Except ε α} {f : α → Except ε β} {b : β}
    (h : x >>= f = .ok b) : ∃ a, x = .ok a ∧ f a = .ok b := by
  cases x with
  | error e => cases h
  | ok a => exact ⟨a, rfl, h⟩

/-! ## The words of a row of tokens -/

theorem isWord_text (t : Token) : IsWord t.text.toList := by
  cases t with
  | number n =>
    have hdigit : ∀ d : Digit, isBlank d.toChar = false := by decide
    rw [Token.text, Numeral.text, String.toList_ofList]
    refine ⟨by simpa using n.digits_ne_nil, ?_⟩
    intro c hc
    obtain ⟨d, -, rfl⟩ := List.mem_map.1 hc
    exact hdigit d
  | operator o =>
    have hsymbol : isBlank o.symbol = false := by cases o <;> rfl
    rw [Token.text, Operator.text, String.toList_singleton]
    exact ⟨List.cons_ne_nil _ _, List.forall_mem_singleton.2 hsymbol⟩

theorem words_joinTexts (ts : List Token) :
    (words (joinTexts (Token.texts ts)).toList).map String.ofList = Token.texts ts := by
  have hwords : ∀ w ∈ (Token.texts ts).map String.toList, IsWord w := by
    intro w hw
    obtain ⟨s, hs, rfl⟩ := List.mem_map.1 hw
    obtain ⟨t, -, rfl⟩ := List.mem_map.1 hs
    exact isWord_text t
  have hspace : " ".toList = [' '] := by decide
  rw [joinTexts, String.toList_intercalate, hspace, words_intercalate hwords, List.map_map]
  simp

/-! ## Expressions -/

structure Expression where
  head : Numeral
  tail : List (Operator × Numeral)
deriving DecidableEq

/-- Why a text is no expression. -/
inductive ReadError where
  | empty
  | expectedNumber (place : Nat) (token : String)
  | expectedOperator (place : Nat) (token : String)
  | operatorAtEnd (text : String)
deriving DecidableEq, Repr

def ReadError.message : ReadError → String
  | .empty => "Empty expression"
  | .expectedNumber i t => s!"Expected a number at position {i}, got {quote t}"
  | .expectedOperator i t => s!"Expected an operator at position {i}, got {quote t}"
  | .operatorAtEnd text => s!"Expression cannot end with an operator: {quote text}"

namespace Expression

def pairTokens : List (Operator × Numeral) → List Token
  | [] => []
  | (o, n) :: r => .operator o :: .number n :: pairTokens r

def tokens (e : Expression) : List Token := .number e.head :: pairTokens e.tail

def readNumeral (place : Nat) (t : String) : Except ReadError Numeral :=
  match Numeral.ofText? t with
  | some n => .ok n
  | none => .error (.expectedNumber place t)

def readOperator (place : Nat) (t : String) : Except ReadError Operator :=
  match Operator.ofText? t with
  | some o => .ok o
  | none => .error (.expectedOperator place t)

/-- Reads what follows the first numeral; `place` is that of the first token given. -/
def readTail (text : String) (place : Nat) :
    List String → Except ReadError (List (Operator × Numeral))
  | [] => .ok []
  | [t] => do
    let _ ← readOperator place t
    .error (.operatorAtEnd text)
  | t :: u :: r => do
    let o ← readOperator place t
    let n ← readNumeral (place + 1) u
    let rest ← readTail text (place + 2) r
    .ok ((o, n) :: rest)

def ofText (text : String) : Except ReadError Expression :=
  match (words text.toList).map String.ofList with
  | [] => .error .empty
  | t :: r => do
    let n ← readNumeral 0 t
    let rest ← readTail text 1 r
    .ok ⟨n, rest⟩

/-! ## The tokens of what was read -/

theorem text_of_readNumeral {place : Nat} {t : String} {n : Numeral}
    (h : readNumeral place t = .ok n) : n.text = t := by
  unfold readNumeral at h
  split at h
  · next m hm =>
    obtain rfl := Except.ok.inj h
    exact Numeral.text_of_ofText? hm
  · cases h

theorem text_of_readOperator {place : Nat} {t : String} {o : Operator}
    (h : readOperator place t = .ok o) : o.text = t := by
  unfold readOperator at h
  split at h
  · next p hp =>
    obtain rfl := Except.ok.inj h
    exact Operator.text_of_ofText? hp
  · cases h

theorem texts_of_readTail {text : String} {place : Nat} {ts : List String}
    {r : List (Operator × Numeral)} (h : readTail text place ts = .ok r) :
    Token.texts (pairTokens r) = ts := by
  fun_induction readTail text place ts generalizing r with
  | case1 =>
    obtain rfl := Except.ok.inj h
    rfl
  | case2 place t =>
    obtain ⟨o, -, h⟩ := exists_of_bind_eq_ok h
    cases h
  | case3 place t u ts ih =>
    obtain ⟨o, ho, h⟩ := exists_of_bind_eq_ok h
    obtain ⟨n, hn, h⟩ := exists_of_bind_eq_ok h
    obtain ⟨rest, hr, h⟩ := exists_of_bind_eq_ok h
    obtain rfl := Except.ok.inj h
    rw [← text_of_readOperator ho, ← text_of_readNumeral hn, ← ih hr]
    rfl

/-- An expression has the words of its text as tokens. -/
theorem texts_of_ofText {text : String} {e : Expression} (h : ofText text = .ok e) :
    Token.texts e.tokens = (words text.toList).map String.ofList := by
  unfold ofText at h
  split at h
  · cases h
  · next t ts hw =>
    obtain ⟨n, hn, h⟩ := exists_of_bind_eq_ok h
    obtain ⟨rest, hr, h⟩ := exists_of_bind_eq_ok h
    obtain rfl := Except.ok.inj h
    rw [hw, ← text_of_readNumeral hn, ← texts_of_readTail hr]
    rfl

/-! ## Reading what was written -/

theorem readNumeral_text (place : Nat) (n : Numeral) : readNumeral place n.text = .ok n := by
  rw [readNumeral, Numeral.ofText?_text]

theorem readOperator_text (place : Nat) (o : Operator) : readOperator place o.text = .ok o := by
  rw [readOperator, Operator.ofText?_text]

theorem readTail_texts (text : String) (place : Nat) (r : List (Operator × Numeral)) :
    readTail text place (Token.texts (pairTokens r)) = .ok r := by
  induction r generalizing place with
  | nil => rfl
  | cons p r ih =>
    obtain ⟨o, n⟩ := p
    show readTail text place (o.text :: n.text :: Token.texts (pairTokens r)) = _
    rw [readTail, readOperator_text, readNumeral_text, ih]
    rfl

/-- An expression is read back from its tokens with one space between neighbours. -/
theorem ofText_joinTexts (e : Expression) : ofText (joinTexts (Token.texts e.tokens)) = .ok e := by
  rw [ofText, words_joinTexts]
  show (readNumeral 0 e.head.text >>= _) = _
  rw [readNumeral_text]
  show (readTail _ 1 (Token.texts (pairTokens e.tail)) >>= _) = _
  rw [readTail_texts]
  rfl

end Expression

end PocketCalculator
