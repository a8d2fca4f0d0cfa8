import PocketCalculator.Proofs.ExpressionTexts
import PocketCalculator.Proofs.ResultLine

/-!
# Divisions by zero

A division by zero can be seen on the text of an expression: it is a `/` with nothing but zeros
behind it, however many numbers overflow on the way. For the stack machine divides by nothing but
the numerals that stand behind a `/`, and a numeral has the value zero only if it is written in
zeros. Main statement: `compute_divisionByZero_iff_zeros`.

## Main definitions

* `IsZeroText` — a numeral made of zeros.
* `watching` — a run of the stack machine that only keeps the divisors.
-/

namespace PocketCalculator

/-! ## Numerals made of zeros -/

def IsZeroText (s : String) : Prop := s ≠ "" ∧ ∀ c ∈ s.toList, c = '0'

theorem Numeral.isZeroText_text_iff (n : Numeral) : IsZeroText n.text ↔ n.value = 0 := by
  have hchar : ∀ d : Digit, d.toChar = '0' ↔ d = 0 := by decide
  rw [IsZeroText, and_iff_right n.text_ne_empty, n.toList_text, List.forall_mem_map, value,
    digitsValue_eq_zero_iff]
  simp only [hchar]

theorem not_isZeroText_operator (o : Operator) : ¬IsZeroText o.text := by
  intro h
  have hsymbol : o.symbol = '0' := h.2 o.symbol (by simp [Operator.text])
  cases o <;> cases hsymbol

/-! ## Divisions in a text -/

theorem infix_texts_iff {e : Expression} {z : String} (h : IsZeroText z) :
    ["/", z] <:+: Token.texts e.tokens ↔ ∃ n : Numeral, n.text = z ∧ (.div, n) ∈ e.tail := by
  constructor
  · intro hinfix
    obtain ⟨us, hus, htexts⟩ := List.infix_map_iff.1 hinfix
    obtain ⟨t, us, rfl, ht, hrest⟩ := List.map_eq_cons_iff.1 htexts.symm
    obtain ⟨u, us, rfl, rfl, hnil⟩ := List.map_eq_cons_iff.1 hrest
    obtain rfl := List.map_eq_nil_iff.1 hnil
    obtain rfl : t = .operator .div := Token.text_injective ht
    cases u with
    | number n => exact ⟨n, rfl, (Expression.infix_tokens_iff .div n e).1 hus⟩
    | operator o => exact absurd h (not_isZeroText_operator o)
  · rintro ⟨n, rfl, hn⟩
    exact ((Expression.infix_tokens_iff .div n e).2 hn).map Token.text

theorem exists_isZeroDivision_iff_infix (e : Expression) :
    (∃ p ∈ e.tail, isZeroDivision p = true) ↔
      ∃ z, ["/", z] <:+: Token.texts e.tokens ∧ IsZeroText z := by
  constructor
  · rintro ⟨⟨o, n⟩, hp, hzero⟩
    obtain ⟨rfl, hvalue⟩ := (isZeroDivision_iff _).1 hzero
    have hn : IsZeroText n.text := n.isZeroText_text_iff.2 hvalue
    exact ⟨n.text, (infix_texts_iff hn).2 ⟨n, rfl, hp⟩, hn⟩
  · rintro ⟨z, hinfix, hz⟩
    obtain ⟨n, rfl, hn⟩ := (infix_texts_iff hz).1 hinfix
    exact ⟨_, hn, (isZeroDivision_iff _).2 ⟨rfl, n.isZeroText_text_iff.1 hz⟩⟩

/-! ## Divisors -/

/-- A number on the stack as far as divisors go: the numeral it is, unless it was computed, and what
was divided by to compute it. -/
structure Watched where
  numeral : Option Numeral
  divisors : List (Option Numeral)

/-- What an operator divides by. -/
def divisorOf (o : Operator) (right : Option Numeral) : List (Option Numeral) :=
  if o = .div then [right] else []

def watching : Arithmetic Watched Unit where
  ofNumeral n := ⟨some n, []⟩
  apply o left right := .ok ⟨none, left.divisors ++ right.divisors ++ divisorOf o right.numeral⟩
  missingOperand := ()

/-- The numerals behind a `/`, from left to right. -/
def Expression.divisors (e : Expression) : List Numeral :=
  (e.tail.filter (·.1 = .div)).map (·.2)

theorem Expression.mem_divisors {e : Expression} {n : Numeral} :
    n ∈ e.divisors ↔ (.div, n) ∈ e.tail := by
  simp [divisors]

/-- The divisors met so far, in the order of the text. -/
def Arithmetic.Partial.divisors (s : Arithmetic.Partial Watched) : List (Option Numeral) :=
  ((s.done.map (·.1.divisors)).getD []) ++ s.term.divisors

theorem close_watching (s : Arithmetic.Partial Watched) :
    ∃ w, watching.close s = .ok w ∧ w.divisors = s.divisors := by
  obtain ⟨_ | ⟨v, o, ho⟩, t⟩ := s
  · exact ⟨t, rfl, rfl⟩
  · have hnone : divisorOf o t.numeral = [] := if_neg (by rintro rfl; cases ho)
    refine ⟨_, rfl, ?_⟩
    show v.divisors ++ t.divisors ++ divisorOf o t.numeral = _
    rw [hnone, List.append_nil]
    rfl

/-- One operator adds the numeral behind it to the divisors if it is a `/`, and else nothing. -/
theorem advance_watching (s : Arithmetic.Partial Watched) (p : Operator × Numeral) :
    ∃ s', watching.advance s p = .ok s' ∧
      s'.divisors = s.divisors ++ divisorOf p.1 (some p.2) := by
  cases ho : p.1.isAdditive with
  | true =>
    obtain ⟨w, hw, hdivisors⟩ := close_watching s
    have hnone : divisorOf p.1 (some p.2) = [] := if_neg (by intro hdiv; rw [hdiv] at ho; cases ho)
    refine ⟨_, by rw [watching.advance_additive s ho, hw]; rfl, ?_⟩
    rw [hnone, List.append_nil, ← hdivisors]
    exact List.append_nil _
  | false =>
    refine ⟨_, watching.advance_tight s ho, ?_⟩
    show _ ++ (s.term.divisors ++ [] ++ divisorOf p.1 (some p.2)) = _
    rw [List.append_nil, ← List.append_assoc]
    rfl

theorem foldlM_advance_watching (r : List (Operator × Numeral)) (s : Arithmetic.Partial Watched) :
    ∃ s', r.foldlM watching.advance s = .ok s' ∧
      s'.divisors = s.divisors ++ r.flatMap fun p => divisorOf p.1 (some p.2) := by
  induction r generalizing s with
  | nil => exact ⟨s, rfl, (List.append_nil _).symm⟩
  | cons p r ih =>
    obtain ⟨s₁, hs, hdivisors⟩ := advance_watching s p
    obtain ⟨s', hr, hdivisors'⟩ := ih s₁
    refine ⟨s', by rw [List.foldlM_cons, hs]; exact hr, ?_⟩
    rw [hdivisors', hdivisors, List.flatMap_cons, List.append_assoc]

theorem flatMap_divisorOf (r : List (Operator × Numeral)) :
    (r.flatMap fun p => divisorOf p.1 (some p.2)) =
      ((r.filter (·.1 = .div)).map (·.2)).map some := by
  induction r with
  | nil => rfl
  | cons p r ih =>
    rw [List.flatMap_cons, ih]
    by_cases hp : p.1 = .div <;> simp [divisorOf, hp]

/-- Whatever the stack machine divides by is the numeral behind a `/`. -/
theorem watching_reversePolish (e : Expression) :
    ∃ w, watching.result (reversePolish e.tokens) = .ok w ∧ w.divisors = e.divisors.map some := by
  obtain ⟨s, hs, hdivisors⟩ := foldlM_advance_watching e.tail ⟨none, watching.ofNumeral e.head⟩
  obtain ⟨w, hw, hclose⟩ := close_watching s
  refine ⟨w, ?_, ?_⟩
  · rw [watching.result_reversePolish, watching.sum_terms, hs]
    exact hw
  · rw [hclose, hdivisors, flatMap_divisorOf]
    rfl

/-! ## Failures -/

/-- A text fails with a division by zero exactly if it reads as an expression in which a numeral
made of zeros stands behind a `/`. Nothing else is ever divided by, and no other numeral counts as
zero. -/
theorem compute_divisionByZero_iff_zeros (text : String) :
    ((∃ v, compute text = .error (.divisionByZero v)) ↔
      ∃ ts, readTokens text = .ok ts ∧ ∃ z, ["/", z] <:+: ts ∧ IsZeroText z) ∧
    (∀ e : Expression, ∃ w, watching.result (reversePolish e.tokens) = .ok w ∧
      w.divisors = e.divisors.map some) ∧
    (∀ n : Numeral, (n.toFloat == 0) = true ↔ IsZeroText n.text) := by
  refine ⟨?_, watching_reversePolish, ?_⟩
  · cases hread : Expression.ofText text with
    | error err =>
      refine iff_of_false ?_ ?_
      · rintro ⟨v, hv⟩
        rw [compute_of_unreadable hread] at hv
        cases hv
      · rintro ⟨ts, hts, -⟩
        obtain ⟨e, he, -⟩ := (readTokens_eq_ok_iff text ts).1 hts
        cases hread.symm.trans he
    | ok e =>
      rw [compute_divisionByZero_iff hread, exists_isZeroDivision_iff_infix]
      constructor
      · intro hzero
        exact ⟨_, (readTokens_eq_ok_iff text _).2 ⟨e, hread, rfl⟩, hzero⟩
      · rintro ⟨ts, hts, hzero⟩
        obtain ⟨e', he', rfl⟩ := (readTokens_eq_ok_iff text ts).1 hts
        obtain rfl := Except.ok.inj (hread.symm.trans he')
        exact hzero
  · intro n
    rw [n.toFloat_beq_zero_iff, n.isZeroText_text_iff]

end PocketCalculator
