import PocketCalculator.Expression.Evaluation

/-!
# Evaluation by terms

An expression is a sum of terms, and a term is a row of numerals joined by products and quotients.
Evaluated by terms, an expression has the value that its tokens in reverse Polish order leave on the
stack, and fails where they fail. Main statements: `result_reversePolish`, and `tokens_terms` with
`isCut_terms`, which say that an expression is cut at its sums and differences and loses nothing.

## Main definitions

* `Expression.terms` — the terms of an expression, cut at sums and differences.
* `Arithmetic.term`, `Arithmetic.sum` — evaluation as a fold of folds.
* `Arithmetic.advance` — the same evaluation, operator by operator.
-/

namespace PocketCalculator

variable {α ε : Type}

/-! ## Terms -/

def Operator.isAdditive : Operator → Bool
  | .add | .sub => true
  | .mul | .div => false

structure Term where
  first : Numeral
  factors : List (Operator × Numeral)
deriving DecidableEq

structure TermSum where
  first : Term
  summands : List (Operator × Term)
deriving DecidableEq

def Term.tokens (t : Term) : List Token := .number t.first :: Expression.pairTokens t.factors

def TermSum.tokens (s : TermSum) : List Token :=
  s.first.tokens ++ s.summands.flatMap fun p => .operator p.1 :: p.2.tokens

/-- No sum or difference within a term, nothing else between the terms. -/
def Term.IsProduct (t : Term) : Prop := ∀ p ∈ t.factors, p.1.isAdditive = false

def TermSum.IsCut (s : TermSum) : Prop :=
  s.first.IsProduct ∧ ∀ p ∈ s.summands, p.1.isAdditive = true ∧ p.2.IsProduct

namespace Expression

/-- Cuts what follows a numeral into the other factors of its term and the terms behind it. -/
def cutTerms : List (Operator × Numeral) → List (Operator × Numeral) × List (Operator × Term)
  | [] => ([], [])
  | (o, n) :: r =>
    let (factors, summands) := cutTerms r
    if o.isAdditive then ([], (o, ⟨n, factors⟩) :: summands) else ((o, n) :: factors, summands)

def terms (e : Expression) : TermSum :=
  ⟨⟨e.head, (cutTerms e.tail).1⟩, (cutTerms e.tail).2⟩

theorem cutTerms_cons_additive {o : Operator} (h : o.isAdditive = true) (n : Numeral)
    (r : List (Operator × Numeral)) :
    cutTerms ((o, n) :: r) = ([], (o, ⟨n, (cutTerms r).1⟩) :: (cutTerms r).2) := by
  simp [cutTerms, h]

theorem cutTerms_cons_tight {o : Operator} (h : o.isAdditive = false) (n : Numeral)
    (r : List (Operator × Numeral)) :
    cutTerms ((o, n) :: r) = ((o, n) :: (cutTerms r).1, (cutTerms r).2) := by
  simp [cutTerms, h]

theorem tokens_cutTerms (r : List (Operator × Numeral)) :
    pairTokens (cutTerms r).1 ++
      (cutTerms r).2.flatMap (fun p => .operator p.1 :: p.2.tokens) = pairTokens r := by
  induction r with
  | nil => rfl
  | cons p r ih =>
    obtain ⟨o, n⟩ := p
    cases ho : o.isAdditive with
    | true =>
      rw [cutTerms_cons_additive ho]
      simpa [pairTokens, Term.tokens] using ih
    | false =>
      rw [cutTerms_cons_tight ho]
      simpa [pairTokens] using ih

theorem isCut_cutTerms (n : Numeral) (r : List (Operator × Numeral)) :
    TermSum.IsCut ⟨⟨n, (cutTerms r).1⟩, (cutTerms r).2⟩ := by
  induction r generalizing n with
  | nil => exact ⟨by simp [Term.IsProduct, cutTerms], by simp [cutTerms]⟩
  | cons p r ih =>
    obtain ⟨o, m⟩ := p
    obtain ⟨hfactors, hsummands⟩ := ih m
    cases ho : o.isAdditive with
    | true =>
      rw [cutTerms_cons_additive ho]
      exact ⟨by simp [Term.IsProduct], List.forall_mem_cons.2 ⟨⟨ho, hfactors⟩, hsummands⟩⟩
    | false =>
      rw [cutTerms_cons_tight ho]
      exact ⟨List.forall_mem_cons.2 ⟨ho, hfactors⟩, hsummands⟩

theorem isCut_terms (e : Expression) : e.terms.IsCut := isCut_cutTerms e.head e.tail

theorem tokens_terms (e : Expression) : e.terms.tokens = e.tokens := by
  rw [TermSum.tokens, terms, Term.tokens, List.cons_append, tokens_cutTerms, tokens]

end Expression

/-- The term that is being read behind a further operator and numeral. -/
def Term.extend (t : Term) (p : Operator × Numeral) : Term :=
  if p.1.isAdditive then ⟨p.2, []⟩ else ⟨t.first, t.factors ++ [p]⟩

/-- The term at the end of an expression. -/
def Expression.lastTerm (e : Expression) : Term := e.tail.foldl Term.extend ⟨e.head, []⟩

namespace Arithmetic

/-! ## A fold of folds -/

def factor (A : Arithmetic α ε) (v : α) (p : Operator × Numeral) : Except ε α :=
  A.apply p.1 v (A.ofNumeral p.2)

/-- The value of a term, from left to right. -/
def term (A : Arithmetic α ε) (t : Term) : Except ε α :=
  t.factors.foldlM A.factor (A.ofNumeral t.first)

def summand (A : Arithmetic α ε) (v : α) (p : Operator × Term) : Except ε α := do
  let w ← A.term p.2
  A.apply p.1 v w

/-- The value of a sum of terms, from left to right. -/
def sum (A : Arithmetic α ε) (s : TermSum) : Except ε α := do
  let v ← A.term s.first
  s.summands.foldlM A.summand v

/-! ## Operator by operator -/

/-- An evaluation on its way: the terms summed up so far with the operator behind them, if there are
any, and the term that is being read. -/
structure Partial (α : Type) where
  done : Option (α × {o : Operator // o.isAdditive = true})
  term : α

/-- Adds the term that is being read to what is done. -/
def close (A : Arithmetic α ε) (s : Partial α) : Except ε α :=
  match s.done with
  | none => .ok s.term
  | some (v, o) => A.apply o v s.term

def advance (A : Arithmetic α ε) (s : Partial α) (p : Operator × Numeral) :
    Except ε (Partial α) :=
  if h : p.1.isAdditive = true then do
    let v ← A.close s
    .ok ⟨some (v, ⟨p.1, h⟩), A.ofNumeral p.2⟩
  else do
    let v ← A.factor s.term p
    .ok ⟨s.done, v⟩

theorem advance_additive (A : Arithmetic α ε) (s : Partial α) {p : Operator × Numeral}
    (h : p.1.isAdditive = true) :
    A.advance s p = A.close s >>= fun v => .ok ⟨some (v, ⟨p.1, h⟩), A.ofNumeral p.2⟩ :=
  dif_pos h

theorem advance_tight (A : Arithmetic α ε) (s : Partial α) {p : Operator × Numeral}
    (h : p.1.isAdditive = false) :
    A.advance s p = A.factor s.term p >>= fun v => .ok ⟨s.done, v⟩ :=
  dif_neg (by simp [h])

/-- The fold of folds, continued from the middle of a term. -/
theorem foldlM_advance_close (A : Arithmetic α ε) (s : Partial α)
    (r : List (Operator × Numeral)) :
    (r.foldlM A.advance s >>= A.close) = (do
      let t ← (Expression.cutTerms r).1.foldlM A.factor s.term
      let v ← A.close ⟨s.done, t⟩
      (Expression.cutTerms r).2.foldlM A.summand v) := by
  induction r generalizing s with
  | nil => exact (bind_pure (A.close s)).symm
  | cons p r ih =>
    obtain ⟨o, n⟩ := p
    rw [List.foldlM_cons, bind_assoc]
    simp only [ih]
    cases ho : o.isAdditive with
    | true =>
      rw [advance_additive A s ho, Expression.cutTerms_cons_additive ho, bind_assoc]
      simp only [List.foldlM_cons, summand, bind_assoc]
      rfl
    | false =>
      rw [advance_tight A s ho, Expression.cutTerms_cons_tight ho, List.foldlM_cons, bind_assoc,
        bind_assoc]
      rfl

theorem sum_terms (A : Arithmetic α ε) (e : Expression) :
    A.sum e.terms = e.tail.foldlM A.advance ⟨none, A.ofNumeral e.head⟩ >>= A.close := by
  rw [foldlM_advance_close]
  rfl

/-! ## The stack -/

/-- The operators that wait while an evaluation is on its way, and the numbers on the stack. -/
def Partial.waiting (s : Partial α) : List Operator := (s.done.map (·.2.val)).toList

def Partial.stack (s : Partial α) : List α := s.term :: (s.done.map (·.1)).toList

theorem run_waiting (A : Arithmetic α ε) (s : Partial α) :
    A.run (s.waiting.map .operator) s.stack = A.close s >>= fun v => .ok [v] := by
  obtain ⟨_ | ⟨v, o⟩, t⟩ := s
  · rfl
  · rfl

end Arithmetic

/-- A sum or a difference lets everything out that waits. -/
theorem reorder_additive {o : Operator} (h : o.isAdditive = true) (s : Arithmetic.Partial α)
    (ts : List Token) :
    reorder s.waiting (.operator o :: ts) = s.waiting.map .operator ++ reorder [o] ts := by
  obtain ⟨_ | ⟨v, p, hp⟩, t⟩ := s
  · rfl
  · have hle : o.precedence ≤ p.precedence := by
      cases o <;> cases p <;> simp_all [Operator.isAdditive, Operator.precedence]
    simp [Arithmetic.Partial.waiting, reorder, hle]

/-- A product or a quotient waits in front of a sum or a difference. -/
theorem reorder_tight {o : Operator} (h : o.isAdditive = false) (s : Arithmetic.Partial α)
    (ts : List Token) :
    reorder s.waiting (.operator o :: ts) = reorder (o :: s.waiting) ts := by
  obtain ⟨_ | ⟨v, p, hp⟩, t⟩ := s
  · rfl
  · have hlt : ¬o.precedence ≤ p.precedence := by
      cases o <;> cases p <;> simp_all [Operator.isAdditive, Operator.precedence]
    simp [Arithmetic.Partial.waiting, reorder, hlt]

/-- An operator that binds tight goes out before anything else does. -/
theorem reorder_cons_tight {o : Operator} (h : o.isAdditive = false) (waiting : List Operator)
    (r : List (Operator × Numeral)) :
    reorder (o :: waiting) (Expression.pairTokens r) =
      .operator o :: reorder waiting (Expression.pairTokens r) := by
  cases r with
  | nil => rfl
  | cons p r =>
    have hp : p.1.precedence ≤ o.precedence := by
      obtain ⟨p, n⟩ := p
      cases o <;> cases p <;> simp_all [Operator.isAdditive, Operator.precedence]
    simp [Expression.pairTokens, reorder, hp]

theorem Arithmetic.run_reorder (A : Arithmetic α ε) (s : Partial α)
    (r : List (Operator × Numeral)) :
    A.run (reorder s.waiting (Expression.pairTokens r)) s.stack = (do
      let s' ← r.foldlM A.advance s
      let v ← A.close s'
      .ok [v]) := by
  induction r generalizing s with
  | nil => exact A.run_waiting s
  | cons p r ih =>
    obtain ⟨o, n⟩ := p
    rw [List.foldlM_cons, bind_assoc]
    simp only [← ih]
    cases ho : o.isAdditive with
    | true =>
      -- What waits goes out first and closes the term that was read.
      rw [Expression.pairTokens, reorder_additive ho, run_append, run_waiting, bind_assoc,
        advance_additive A s ho, bind_assoc]
      rfl
    | false =>
      -- The operator waits for its numeral only, so the factor is applied at once.
      rw [Expression.pairTokens, reorder_tight ho, reorder, reorder_cons_tight ho,
        advance_tight A s ho, bind_assoc]
      rfl

/-- The tokens in reverse Polish order leave one number on the stack, the value by terms, or fail
with the failure by terms. -/
theorem Arithmetic.run_reversePolish (A : Arithmetic α ε) (e : Expression) :
    A.run (reversePolish e.tokens) [] = A.sum e.terms >>= fun v => .ok [v] := by
  rw [sum_terms, bind_assoc]
  exact A.run_reorder ⟨none, A.ofNumeral e.head⟩ e.tail

theorem Arithmetic.result_reversePolish (A : Arithmetic α ε) (e : Expression) :
    A.result (reversePolish e.tokens) = A.sum e.terms := by
  rw [result, run_reversePolish, bind_assoc]
  exact bind_pure (A.sum e.terms)

/-! ## The term being read -/

theorem Arithmetic.term_concat (A : Arithmetic α ε) (t : Term) (p : Operator × Numeral) :
    A.term ⟨t.first, t.factors ++ [p]⟩ = A.term t >>= fun v => A.factor v p := by
  rw [term, term, List.foldlM_append]
  exact bind_congr fun v => bind_pure (A.factor v p)

/-- As long as nothing fails, the term that is being read has the value reached so far. -/
theorem Arithmetic.term_extend (A : Arithmetic α ε) {t : Term} {s s' : Partial α}
    {p : Operator × Numeral} (h : A.term t = .ok s.term) (hs : A.advance s p = .ok s') :
    A.term (t.extend p) = .ok s'.term := by
  cases hp : p.1.isAdditive with
  | true =>
    rw [advance_additive A s hp] at hs
    obtain ⟨v, -, hs⟩ := exists_of_bind_eq_ok hs
    obtain rfl := Except.ok.inj hs
    rw [Term.extend, if_pos hp]
    rfl
  | false =>
    rw [advance_tight A s hp] at hs
    obtain ⟨v, hf, hs⟩ := exists_of_bind_eq_ok hs
    obtain rfl := Except.ok.inj hs
    rw [Term.extend, if_neg (by simp [hp]), term_concat, h]
    exact hf

theorem Arithmetic.term_lastTerm (A : Arithmetic α ε) {e : Expression} {s : Partial α}
    (h : e.tail.foldlM A.advance ⟨none, A.ofNumeral e.head⟩ = .ok s) :
    A.term e.lastTerm = .ok s.term := by
  have hfold (r : List (Operator × Numeral)) (t : Term) (s₀ : Partial α)
      (ht : A.term t = .ok s₀.term) (hr : r.foldlM A.advance s₀ = .ok s) :
      A.term (r.foldl Term.extend t) = .ok s.term := by
    induction r generalizing t s₀ with
    | nil =>
      obtain rfl := Except.ok.inj hr
      exact ht
    | cons p r ih =>
      rw [List.foldlM_cons] at hr
      obtain ⟨s₁, hs, hr⟩ := exists_of_bind_eq_ok hr
      exact ih _ s₁ (A.term_extend ht hs) hr
  exact hfold e.tail ⟨e.head, []⟩ _ rfl h

end PocketCalculator
