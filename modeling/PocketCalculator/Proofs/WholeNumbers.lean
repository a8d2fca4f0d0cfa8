import PocketCalculator.Proofs.ExactDoubles
import PocketCalculator.Proofs.PartialResults
import PocketCalculator.Proofs.ZeroDivisions

/-!
# Expressions with whole numbers

As long as everything that an evaluation over the rational numbers meets is a whole number of at
most `2 ^ 53`, the evaluation in double precision meets the same numbers, and the integer is shown
that is the value of the expression. Main statement: `evaluate_whole`.

## Main definitions

* `rationals` — the exact evaluation.
-/

namespace PocketCalculator

/-! ## The exact evaluation -/

def applyRational : Operator → ℚ → ℚ → Except Unit ℚ
  | .add, p, q => .ok (p + q)
  | .sub, p, q => .ok (p - q)
  | .mul, p, q => .ok (p * q)
  | .div, p, q => if q = 0 then .error () else .ok (p / q)

def rationals : Arithmetic ℚ Unit where
  ofNumeral n := n.value
  apply := applyRational
  missingOperand := ()

/-- An operation on doubles is exact where its exact result is a whole double. -/
theorem apply_standsFor {o : Operator} {x y : Float} {p q : ℚ} (hx : StandsFor x p)
    (hy : StandsFor y q) (hdiv : o = .div → (y == 0) = false ∧ q ≠ 0) :
    ∃ v r, doubles.apply o x y = .ok v ∧ rationals.apply o p q = .ok r ∧
      (IsWholeDouble r → StandsFor v r) := by
  cases o with
  | add => exact ⟨_, _, rfl, rfl, hx.add hy⟩
  | sub => exact ⟨_, _, rfl, rfl, hx.sub hy⟩
  | mul => exact ⟨_, _, rfl, rfl, hx.mul hy⟩
  | div =>
    obtain ⟨hzero, hq⟩ := hdiv rfl
    exact ⟨_, _, if_neg (ne_true_of_eq_false hzero), if_neg hq, hx.div hy hq⟩

/-! ## Expressions -/

/-- A whole number that is not too large to be told from its neighbours as a double. -/
def IsSmallWhole (q : ℚ) : Prop := ∃ z : ℤ, q = z ∧ |z| ≤ 2 ^ 53

theorem IsSmallWhole.isWholeDouble {q : ℚ} (h : IsSmallWhole q) : IsWholeDouble q := by
  obtain ⟨z, rfl, hz⟩ := h
  exact isWholeDouble_intCast hz

theorem sum_standsFor {e : Expression} (hdiv : ∀ n ∈ e.divisors, n.value ≠ 0)
    (hwhole : ∀ q, rationals.Meets e.terms q → IsSmallWhole q) :
    ∃ x q, doubles.sum e.terms = .ok x ∧ rationals.sum e.terms = .ok q ∧ StandsFor x q := by
  have hdouble {q : ℚ} (hq : rationals.Meets e.terms q) : IsWholeDouble q :=
    (hwhole q hq).isWholeDouble
  have hoperand (n : Numeral) (hn : rationals.Meets e.terms n.value) :
      StandsFor n.toFloat n.value := n.standsFor_toFloat (hdouble hn)
  refine Arithmetic.sum_simulates hoperand ?_ ?_
  · rintro t ht ⟨o, n⟩ hp x q hx
    have hn : rationals.Meets e.terms n.value :=
      .operand ht (Term.number_mem_tokens.2 (.inr ⟨_, hp, rfl⟩))
    have hnonzero : o = .div → (n.toFloat == 0) = false ∧ (n.value : ℚ) ≠ 0 := by
      rintro rfl
      have hvalue := hdiv n (Expression.mem_divisors.2 (Expression.mem_tail_of_mem_factors ht hp))
      exact ⟨eq_false_of_ne_true (mt n.toFloat_beq_zero_iff.1 hvalue), Nat.cast_ne_zero.2 hvalue⟩
    obtain ⟨v, r, hv, hr, hexact⟩ := apply_standsFor hx (hoperand n hn) hnonzero
    exact ⟨v, r, hv, hr, fun hmeets => hexact (hdouble hmeets)⟩
  · rintro ⟨o, t⟩ hp x q y r hx hy
    have hnodiv : o ≠ .div := Expression.ne_div_of_mem_summands hp
    obtain ⟨v, r, hv, hr, hexact⟩ := apply_standsFor hx hy fun hdiv => absurd hdiv hnodiv
    exact ⟨v, r, hv, hr, fun hmeets => hexact (hdouble hmeets)⟩

/-- Integer arithmetic is shown exactly: if no divisor is zero, and every operand, every partial
product or quotient and every running sum over the rational numbers is an integer of at most
`2 ^ 53`, then so is the value, and its canonical text is on the display. -/
theorem evaluate_whole {text : String} {e : Expression} (h : Expression.ofText text = .ok e)
    (hdiv : ∀ n ∈ e.divisors, n.value ≠ 0)
    (hwhole : ∀ q, rationals.Meets e.terms q → IsSmallWhole q) :
    ∃ z : ℤ, rationals.sum e.terms = .ok (z : ℚ) ∧ evaluate text = intText z ∧
      IsCanonicalDecimal (evaluate text) ∧ decimalValue (evaluate text).toList = z := by
  obtain ⟨x, q, hx, hq, hfinite, hvalue⟩ := sum_standsFor hdiv hwhole
  obtain ⟨z, rfl, -⟩ := hwhole q (.sum List.prefix_rfl hq)
  have hcompute : compute text = .ok x := (compute_of_sum h hx).trans (if_pos hfinite)
  have hnearest : IsNearestMultiple displayPlaces (exactValue x) z := by
    rw [hvalue]
    exact isNearestMultiple_intCast displayPlaces z
  have htext : evaluate text = numberText x displayPlaces := evaluate_of_ok hcompute
  obtain ⟨hcanonical, hread⟩ := (eq_numberText_iff hfinite displayPlaces _).1 htext
  exact ⟨z, hq, htext.trans (numberText_of_isNearestMultiple hfinite hnearest), hcanonical,
    hread.unique hnearest⟩

/-- The largest numeral that is allowed, an exact division and a running sum below zero. -/
theorem evaluate_whole_edge :
    ∃ e, Expression.ofText "3 - 10 + 9007199254740992 / 4 * 2" = .ok e ∧
      (∀ n ∈ e.divisors, n.value ≠ 0) ∧ (∀ q, rationals.Meets e.terms q → IsSmallWhole q) ∧
      rationals.sum e.terms = .ok 4503599627370489 ∧
      evaluate "3 - 10 + 9007199254740992 / 4 * 2" = intText 4503599627370489 := by
  let e : Expression := ⟨.ofNat 3, [(.sub, .ofNat 10), (.add, .ofNat 9007199254740992),
    (.div, .ofNat 4), (.mul, .ofNat 2)]⟩
  have h : Expression.ofText "3 - 10 + 9007199254740992 / 4 * 2" = .ok e := by decide +kernel
  have hdiv : ∀ n ∈ e.divisors, n.value ≠ 0 := by decide +kernel
  have hmet : ∀ q ∈ rationals.met e.terms, q = q.num ∧ |q.num| ≤ 2 ^ 53 := by decide +kernel
  have hwhole (q : ℚ) (hq : rationals.Meets e.terms q) : IsSmallWhole q :=
    ⟨q.num, hmet q (Arithmetic.mem_met_iff.2 hq)⟩
  have hsum : rationals.sum e.terms = .ok 4503599627370489 := by decide +kernel
  obtain ⟨z, hz, htext, -⟩ := evaluate_whole h hdiv hwhole
  have hvalue : (z : ℚ) = (4503599627370489 : ℤ) := Except.ok.inj (hz.symm.trans hsum)
  obtain rfl : z = 4503599627370489 := by exact_mod_cast hvalue
  exact ⟨e, h, hdiv, hwhole, hsum, htext⟩

end PocketCalculator
