import PocketCalculator.Proofs.NumeralDoubles
import PocketCalculator.Proofs.Precedence

/-!
# Evaluation in double precision

A division by zero is the only operation on doubles that fails. In an expression the leftmost
division by zero is the one that is reported, with the value that its term has in front of it, and
an expression without one leaves exactly one number on the stack. Main statement:
`compute_of_ofText`, what a text evaluates to, by terms.

## Main definitions

* `isZeroDivision` — a division whose divisor is a numeral for zero.
* `valueOf` — what a text amounts to, finite or not.
-/

namespace PocketCalculator

def isZeroDivision (p : Operator × Numeral) : Bool := p.1 == .div && p.2.toFloat == 0

theorem isZeroDivision_iff (p : Operator × Numeral) :
    isZeroDivision p = true ↔ p.1 = .div ∧ p.2.value = 0 := by
  rw [isZeroDivision, Bool.and_eq_true_iff, beq_iff_eq, Numeral.toFloat_beq_zero_iff]

/-! ## One operator -/

theorem exists_applyDouble_of_additive {o : Operator} (h : o.isAdditive = true) (a b : Float) :
    ∃ v, doubles.apply o a b = .ok v := by
  cases o with
  | add => exact ⟨a + b, rfl⟩
  | sub => exact ⟨a - b, rfl⟩
  | mul => cases h
  | div => cases h

theorem factor_of_isZeroDivision {p : Operator × Numeral} (h : isZeroDivision p = true)
    (a : Float) : doubles.factor a p = .error (.divisionByZero a) := by
  obtain ⟨o, n⟩ := p
  obtain ⟨ho, hn⟩ := Bool.and_eq_true_iff.1 h
  obtain rfl := eq_of_beq ho
  exact if_pos hn

theorem exists_factor_of_not_isZeroDivision {p : Operator × Numeral}
    (h : isZeroDivision p = false) (a : Float) : ∃ v, doubles.factor a p = .ok v := by
  obtain ⟨o, n⟩ := p
  cases o with
  | add => exact ⟨_, rfl⟩
  | sub => exact ⟨_, rfl⟩
  | mul => exact ⟨_, rfl⟩
  | div =>
    have hn : ¬(n.toFloat == 0) = true := by simpa [isZeroDivision] using h
    exact ⟨_, if_neg hn⟩

theorem exists_close (s : Arithmetic.Partial Float) : ∃ v, doubles.close s = .ok v := by
  obtain ⟨_ | ⟨v, o⟩, t⟩ := s
  · exact ⟨t, rfl⟩
  · exact exists_applyDouble_of_additive o.property v t

theorem advance_of_isZeroDivision {p : Operator × Numeral} (h : isZeroDivision p = true)
    (s : Arithmetic.Partial Float) : doubles.advance s p = .error (.divisionByZero s.term) := by
  have ho : p.1.isAdditive = false := by
    rw [eq_of_beq (Bool.and_eq_true_iff.1 h).1]
    rfl
  rw [doubles.advance_tight s ho, factor_of_isZeroDivision h]
  rfl

theorem exists_advance_of_not_isZeroDivision {p : Operator × Numeral}
    (h : isZeroDivision p = false) (s : Arithmetic.Partial Float) :
    ∃ s', doubles.advance s p = .ok s' := by
  cases ho : p.1.isAdditive with
  | true =>
    obtain ⟨v, hv⟩ := exists_close s
    rw [doubles.advance_additive s ho, hv]
    exact ⟨_, rfl⟩
  | false =>
    obtain ⟨v, hv⟩ := exists_factor_of_not_isZeroDivision h s.term
    rw [doubles.advance_tight s ho, hv]
    exact ⟨_, rfl⟩

/-! ## A row of operators -/

theorem exists_foldlM_advance {r : List (Operator × Numeral)}
    (h : ∀ p ∈ r, isZeroDivision p = false) (s : Arithmetic.Partial Float) :
    ∃ s', r.foldlM doubles.advance s = .ok s' := by
  induction r generalizing s with
  | nil => exact ⟨s, rfl⟩
  | cons p r ih =>
    obtain ⟨hp, hr⟩ := List.forall_mem_cons.1 h
    obtain ⟨s₁, hs⟩ := exists_advance_of_not_isZeroDivision hp s
    rw [List.foldlM_cons, hs]
    exact ih hr s₁

theorem exists_sum_terms {e : Expression} (h : ∀ p ∈ e.tail, isZeroDivision p = false) :
    ∃ v, doubles.sum e.terms = .ok v := by
  obtain ⟨s, hs⟩ := exists_foldlM_advance h ⟨none, doubles.ofNumeral e.head⟩
  rw [doubles.sum_terms, hs]
  exact exists_close s

/-- The leftmost division by zero fails with the value of its term so far. -/
theorem sum_terms_of_isZeroDivision {e : Expression} {before behind : List (Operator × Numeral)}
    {p : Operator × Numeral} (he : e.tail = before ++ p :: behind)
    (hbefore : ∀ q ∈ before, isZeroDivision q = false) (hp : isZeroDivision p = true) :
    ∃ v, doubles.term (Expression.lastTerm ⟨e.head, before⟩) = .ok v ∧
      doubles.sum e.terms = .error (.divisionByZero v) := by
  obtain ⟨s, hs⟩ := exists_foldlM_advance hbefore ⟨none, doubles.ofNumeral e.head⟩
  refine ⟨s.term, doubles.term_lastTerm hs, ?_⟩
  rw [doubles.sum_terms, he, List.foldlM_append, hs]
  show (doubles.advance s p >>= _) >>= _ = _
  rw [advance_of_isZeroDivision hp]
  rfl

theorem exists_first_isZeroDivision {r : List (Operator × Numeral)}
    (h : ¬∀ p ∈ r, isZeroDivision p = false) :
    ∃ before p behind, r = before ++ p :: behind ∧ (∀ q ∈ before, isZeroDivision q = false) ∧
      isZeroDivision p = true := by
  cases hf : r.find? isZeroDivision with
  | none =>
    rw [List.find?_eq_none] at hf
    exact absurd (fun p hp => eq_false_of_ne_true (hf p hp)) h
  | some p =>
    obtain ⟨hp, before, behind, hr, hbefore⟩ := List.find?_eq_some_iff_append.1 hf
    exact ⟨before, p, behind, hr, fun q hq => by simpa using hbefore q hq, hp⟩

/-! ## Expressions and texts -/

theorem Expression.exists_value_of_isZeroDivision {e : Expression}
    (h : ∃ p ∈ e.tail, isZeroDivision p = true) : ∃ v, e.value = .error (.divisionByZero v) := by
  have hnot : ¬∀ p ∈ e.tail, isZeroDivision p = false := by
    intro hall
    obtain ⟨p, hp, hzero⟩ := h
    exact Bool.false_ne_true ((hall p hp).symm.trans hzero)
  obtain ⟨before, p, behind, he, hbefore, hp⟩ := exists_first_isZeroDivision hnot
  obtain ⟨v, -, hv⟩ := sum_terms_of_isZeroDivision he hbefore hp
  exact ⟨v, by rw [value, doubles.result_reversePolish, hv]⟩

/-- Nothing but a division by zero keeps an expression from having a value. -/
theorem Expression.value_cases (e : Expression) :
    (∃ v, e.value = .ok v) ∨ ∃ v, e.value = .error (.divisionByZero v) := by
  rw [value, doubles.result_reversePolish]
  by_cases h : ∀ p ∈ e.tail, isZeroDivision p = false
  · exact .inl (exists_sum_terms h)
  · obtain ⟨before, p, behind, he, hbefore, hp⟩ := exists_first_isZeroDivision h
    obtain ⟨v, -, hv⟩ := sum_terms_of_isZeroDivision he hbefore hp
    exact .inr ⟨v, hv⟩

theorem compute_eq_of_ofText {text : String} {e : Expression} (h : Expression.ofText text = .ok e) :
    compute text = (do
      let v ← e.value
      if v.isFinite then .ok v else .error (.notFinite v)) := by
  rw [compute, readExpression, h]
  rfl

theorem compute_of_sum {text : String} {e : Expression} {v : Float}
    (h : Expression.ofText text = .ok e) (hv : doubles.sum e.terms = .ok v) :
    compute text = if v.isFinite then .ok v else .error (.notFinite v) := by
  rw [compute_eq_of_ofText h, Expression.value, doubles.result_reversePolish, hv]
  rfl

/-- What a text amounts to, before it is checked that this is finite. -/
def valueOf (text : String) : Except EvaluationError Float := do
  let e ← readExpression text
  e.value

theorem valueOf_of_ofText {text : String} {e : Expression} (h : Expression.ofText text = .ok e) :
    valueOf text = e.value := by
  rw [valueOf, readExpression, h]
  rfl

/-- An expression has a finite value or another one, or it divides by zero. -/
theorem valueOf_cases {text : String} {e : Expression} (h : Expression.ofText text = .ok e) :
    (∃ v, valueOf text = .ok v ∧ v.isFinite = true ∧ compute text = .ok v) ∨
      (∃ v, valueOf text = .ok v ∧ v.isFinite = false ∧ compute text = .error (.notFinite v)) ∨
      ∃ v, compute text = .error (.divisionByZero v) := by
  have hvalue := valueOf_of_ofText h
  rcases e.value_cases with ⟨v, hv⟩ | ⟨v, hv⟩
  · rw [hv] at hvalue
    have hcompute : compute text = if v.isFinite then .ok v else .error (.notFinite v) := by
      rw [compute_eq_of_ofText h, hv]
      rfl
    cases hfinite : v.isFinite with
    | true => exact .inl ⟨v, hvalue, hfinite, by rw [hcompute, if_pos hfinite]⟩
    | false => exact .inr (.inl ⟨v, hvalue, hfinite, by rw [hcompute, hfinite]; rfl⟩)
  · have hcompute : compute text = .error (.divisionByZero v) := by
      rw [compute_eq_of_ofText h, hv]
      rfl
    exact .inr (.inr ⟨v, hcompute⟩)

theorem compute_notFinite_iff {text : String} {e : Expression} (h : Expression.ofText text = .ok e)
    (v : Float) :
    compute text = .error (.notFinite v) ↔ valueOf text = .ok v ∧ v.isFinite = false := by
  rw [compute_eq_of_ofText h, valueOf_of_ofText h]
  rcases e.value_cases with ⟨w, hw⟩ | ⟨w, hw⟩
  · rw [hw]
    show (if w.isFinite then Except.ok w else _) = _ ↔ _
    constructor
    · intro hv
      split at hv
      · cases hv
      · next hfinite =>
        obtain rfl : w = v := by simpa using hv
        exact ⟨rfl, eq_false_of_ne_true hfinite⟩
    · rintro ⟨hv, hfinite⟩
      obtain rfl := Except.ok.inj hv
      rw [hfinite]
      rfl
  · rw [hw]
    constructor
    · intro hv
      cases hv
    · rintro ⟨hv, -⟩
      cases hv

theorem compute_divisionByZero_iff {text : String} {e : Expression}
    (h : Expression.ofText text = .ok e) :
    (∃ v, compute text = .error (.divisionByZero v)) ↔ ∃ p ∈ e.tail, isZeroDivision p = true := by
  rw [compute_eq_of_ofText h]
  constructor
  · rintro ⟨v, hv⟩
    by_contra hnone
    have hall : ∀ p ∈ e.tail, isZeroDivision p = false :=
      fun p hp => eq_false_of_ne_true fun hzero => hnone ⟨p, hp, hzero⟩
    obtain ⟨w, hw⟩ := exists_sum_terms hall
    rw [Expression.value, doubles.result_reversePolish, hw] at hv
    change (if w.isFinite then Except.ok w else _) = _ at hv
    split at hv <;> cases hv
  · intro hzero
    obtain ⟨v, hv⟩ := Expression.exists_value_of_isZeroDivision hzero
    rw [hv]
    exact ⟨v, rfl⟩

theorem mapM_readToken_texts (ts : List Token) :
    (Token.texts ts).mapM readToken = .ok ts := by
  induction ts with
  | nil => rfl
  | cons t r ih =>
    rw [Token.texts, List.map_cons, List.mapM_cons, readToken, Token.ofText?_text]
    show ((Token.texts r).mapM readToken >>= _) = _
    rw [ih]
    rfl

theorem reversePolishTexts_texts (ts : List Token) :
    reversePolishTexts (Token.texts ts) = .ok (Token.texts (reversePolish ts)) := by
  rw [reversePolishTexts, mapM_readToken_texts]
  rfl

/-- A text that reads as an expression is evaluated by terms, on a stack that never lacks an operand
and holds one number in the end. The leftmost division by zero is the one that is reported. -/
theorem compute_of_ofText {text : String} {e : Expression} (h : Expression.ofText text = .ok e) :
    Token.texts e.tokens = (words text.toList).map String.ofList ∧
    e.terms.tokens = e.tokens ∧ e.terms.IsCut ∧
    reversePolishTexts (Token.texts e.tokens) = .ok (Token.texts (reversePolish e.tokens)) ∧
    doubles.run (reversePolish e.tokens) [] = (do
      let v ← doubles.sum e.terms
      .ok [v]) ∧
    compute text = (do
      let v ← doubles.sum e.terms
      if v.isFinite then .ok v else .error (.notFinite v)) ∧
    ((∀ p ∈ e.tail, isZeroDivision p = false) → ∃ v, doubles.sum e.terms = .ok v) ∧
    ((∃ p ∈ e.tail, isZeroDivision p = true) →
      ∃ before n behind v, e.tail = before ++ (.div, n) :: behind ∧
        (∀ p ∈ before, isZeroDivision p = false) ∧ isZeroDivision (.div, n) = true ∧
        doubles.term (Expression.lastTerm ⟨e.head, before⟩) = .ok v ∧
        compute text = .error (.divisionByZero v) ∧
        (EvaluationError.divisionByZero v).message =
          "division of " ++ displayText v ++ " by zero") := by
  have hcompute : compute text = doubles.sum e.terms >>= fun v =>
      if v.isFinite then .ok v else .error (.notFinite v) := by
    rw [compute_eq_of_ofText h, Expression.value, doubles.result_reversePolish]
  refine ⟨Expression.texts_of_ofText h, Expression.tokens_terms e, Expression.isCut_terms e,
    reversePolishTexts_texts e.tokens, doubles.run_reversePolish e, hcompute, exists_sum_terms, ?_⟩
  intro hzero
  have hnot : ¬∀ p ∈ e.tail, isZeroDivision p = false := by
    intro hall
    obtain ⟨p, hp, hdiv⟩ := hzero
    exact Bool.false_ne_true ((hall p hp).symm.trans hdiv)
  obtain ⟨before, ⟨o, n⟩, behind, he, hbefore, hp⟩ := exists_first_isZeroDivision hnot
  obtain ⟨v, hterm, hsum⟩ := sum_terms_of_isZeroDivision he hbefore hp
  obtain rfl : o = .div := eq_of_beq (Bool.and_eq_true_iff.1 hp).1
  refine ⟨before, n, behind, v, he, hbefore, hp, hterm, ?_, rfl⟩
  rw [hcompute, hsum]
  rfl

/-- The quotient of twelve and zero is met before the other one. -/
theorem compute_twelve_by_zero :
    ∃ e, Expression.ofText "1 + 4 * 3 / 0 - 5 / 00" = .ok e ∧
      ∃ before n behind v, e.tail = before ++ (.div, n) :: behind ∧
        (∀ p ∈ before, isZeroDivision p = false) ∧ isZeroDivision (.div, n) = true ∧
        doubles.term (Expression.lastTerm ⟨e.head, before⟩) = .ok v ∧
        compute "1 + 4 * 3 / 0 - 5 / 00" = .error (.divisionByZero v) ∧
        (EvaluationError.divisionByZero v).message =
          "division of " ++ displayText v ++ " by zero" := by
  let e : Expression := ⟨.ofDigit 1, [(.add, .ofDigit 4), (.mul, .ofDigit 3), (.div, .ofDigit 0),
    (.sub, .ofDigit 5), (.div, ⟨[0, 0], by decide⟩)]⟩
  have h : Expression.ofText "1 + 4 * 3 / 0 - 5 / 00" = .ok e := by rfl
  obtain ⟨-, -, -, -, -, -, -, hzero⟩ := compute_of_ofText h
  exact ⟨e, h, hzero ⟨(.div, .ofDigit 0), by decide, by decide⟩⟩

end PocketCalculator
