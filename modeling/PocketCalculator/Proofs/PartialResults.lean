import Mathlib
import PocketCalculator.Proofs.Precedence

/-!
# Partial results

On its way to the value of a sum of terms, an evaluation meets the operands, the partial products of
every term and the running sums. Two arithmetics that stay related at every step give related
values, and what every operation passes on reaches the value from anywhere. Main statements:
`Arithmetic.sum_simulates` and `Arithmetic.Meets.absorbed`.

## Main definitions

* `Arithmetic.Meets` — the numbers that an evaluation meets.
* `Arithmetic.met` — the same numbers, computed.
-/

namespace PocketCalculator

variable {α β γ δ ε ε' : Type}

/-! ## Folds that can fail -/

theorem foldlM_concat (f : β → δ → Except ε β) (b : β) (l : List δ) (p : δ) :
    (l ++ [p]).foldlM f b = l.foldlM f b >>= fun x => f x p := by
  rw [List.foldlM_append]
  exact bind_congr fun x => bind_pure (f x p)

/-- Two folds that stay related as far as they have come do not fail and have related results. -/
theorem foldlM_simulates {R : β → γ → Prop} {f : β → δ → Except ε β} {g : γ → δ → Except ε' γ}
    {b : β} {c : γ} {l : List δ} (hstart : R b c)
    (hstep : ∀ k p, k ++ [p] <+: l → ∀ x y, k.foldlM g c = .ok y → R x y →
      ∃ x' y', f x p = .ok x' ∧ g y p = .ok y' ∧ R x' y') :
    ∃ x y, l.foldlM f b = .ok x ∧ l.foldlM g c = .ok y ∧ R x y := by
  induction l using List.reverseRecOn with
  | nil => exact ⟨b, c, rfl, rfl, hstart⟩
  | append_singleton l p ih =>
    obtain ⟨x, y, hx, hy, hxy⟩ := ih fun k q hk => hstep k q (hk.trans (l.prefix_append [p]))
    obtain ⟨x', y', hx', hy', hxy'⟩ := hstep l p List.prefix_rfl x y hy hxy
    refine ⟨x', y', ?_, ?_, hxy'⟩
    · rw [foldlM_concat, hx]
      exact hx'
    · rw [foldlM_concat, hy]
      exact hy'

/-- What every step passes on, from the result so far and from what it reads, reaches the result of
a fold. -/
theorem foldlM_absorbs {P : β → Prop} {Q : δ → Prop} {f : β → δ → Except ε β} {l : List δ} {b v : β}
    (hstep : ∀ p ∈ l, ∀ x y, f x p = .ok y → P x ∨ Q p → P y) (hv : l.foldlM f b = .ok v)
    (h : P b ∨ ∃ p ∈ l, Q p) : P v := by
  induction l generalizing b with
  | nil =>
    obtain rfl := Except.ok.inj hv
    simpa using h
  | cons p l ih =>
    rw [List.foldlM_cons] at hv
    obtain ⟨y, hy, hv⟩ := exists_of_bind_eq_ok hv
    obtain ⟨hp, hl⟩ := List.forall_mem_cons.1 hstep
    refine ih hl hv ?_
    rw [List.exists_mem_cons_iff, ← or_assoc] at h
    exact h.imp_left (hp b y hy)

/-! ## What an evaluation meets -/

def TermSum.terms (s : TermSum) : List Term := s.first :: s.summands.map (·.2)

namespace Arithmetic

/-- The operands, the partial products and quotients of the terms, and the running sums. -/
inductive Meets (A : Arithmetic α ε) (s : TermSum) : α → Prop
  | operand {t : Term} {n : Numeral} (ht : t ∈ s.terms) (hn : .number n ∈ t.tokens) :
    Meets A s (A.ofNumeral n)
  | product {t : Term} {factors : List (Operator × Numeral)} {v : α} (ht : t ∈ s.terms)
    (hbegin : factors <+: t.factors) (hv : A.term ⟨t.first, factors⟩ = .ok v) : Meets A s v
  | sum {summands : List (Operator × Term)} {v : α} (hbegin : summands <+: s.summands)
    (hv : A.sum ⟨s.first, summands⟩ = .ok v) : Meets A s v

/-- All that is met, so that it can be checked for a given expression. -/
def met (A : Arithmetic α ε) (s : TermSum) : List α :=
  (s.terms.flatMap fun t => (t.first :: t.factors.map (·.2)).map A.ofNumeral) ++
    (s.terms.flatMap fun t => t.factors.inits.filterMap fun k => (A.term ⟨t.first, k⟩).toOption) ++
    s.summands.inits.filterMap fun k => (A.sum ⟨s.first, k⟩).toOption

theorem sum_concat (A : Arithmetic α ε) (t : Term) (l : List (Operator × Term))
    (p : Operator × Term) :
    A.sum ⟨t, l ++ [p]⟩ = A.sum ⟨t, l⟩ >>= fun v => A.summand v p := by
  rw [sum, sum, bind_assoc]
  exact bind_congr fun v => foldlM_concat A.summand v l p

end Arithmetic

theorem Expression.number_mem_pairTokens {n : Numeral} {r : List (Operator × Numeral)} :
    Token.number n ∈ pairTokens r ↔ ∃ p ∈ r, p.2 = n := by
  induction r <;> grind [pairTokens]

theorem Term.number_mem_tokens {n : Numeral} {t : Term} :
    Token.number n ∈ t.tokens ↔ n = t.first ∨ ∃ p ∈ t.factors, p.2 = n := by
  grind [tokens, Expression.number_mem_pairTokens]

theorem toOption_eq_some_iff {x : Except ε α} {v : α} : x.toOption = some v ↔ x = .ok v := by
  cases x <;> simp [Except.toOption]

namespace Arithmetic

theorem mem_met_iff {A : Arithmetic α ε} {s : TermSum} {x : α} : x ∈ A.met s ↔ A.Meets s x := by
  simp only [met, List.mem_append, List.mem_flatMap, List.mem_filterMap, List.mem_inits,
    toOption_eq_some_iff, List.mem_map]
  constructor
  · rintro ((⟨t, ht, n, hn, rfl⟩ | ⟨t, ht, k, hk, hv⟩) | ⟨k, hk, hv⟩)
    · rw [List.mem_cons, List.mem_map] at hn
      exact .operand ht (Term.number_mem_tokens.2 hn)
    · exact .product ht hk hv
    · exact .sum hk hv
  · rintro (⟨ht, hn⟩ | ⟨ht, hk, hv⟩ | ⟨hk, hv⟩)
    · rw [Term.number_mem_tokens, ← List.mem_map, ← List.mem_cons] at hn
      exact .inl (.inl ⟨_, ht, _, hn, rfl⟩)
    · exact .inl (.inr ⟨_, ht, _, hk, hv⟩)
    · exact .inr ⟨_, hk, hv⟩

/-! ## Two evaluations side by side -/

section Simulation

variable {A : Arithmetic α ε} {B : Arithmetic β ε'} {R : α → β → Prop} {s : TermSum}
  (hoperand : ∀ n, B.Meets s (B.ofNumeral n) → R (A.ofNumeral n) (B.ofNumeral n))
  (hfactor : ∀ t ∈ s.terms, ∀ p ∈ t.factors, ∀ x y, R x y →
    ∃ x' y', A.factor x p = .ok x' ∧ B.factor y p = .ok y' ∧ (B.Meets s y' → R x' y'))

include hoperand hfactor

theorem term_simulates {t : Term} (ht : t ∈ s.terms) :
    ∃ x y, A.term t = .ok x ∧ B.term t = .ok y ∧ R x y := by
  have hfirst : B.Meets s (B.ofNumeral t.first) :=
    .operand ht (Term.number_mem_tokens.2 (.inl rfl))
  refine foldlM_simulates (hoperand _ hfirst) ?_
  intro k p hk x y hy hxy
  have hp : p ∈ t.factors := hk.subset (by simp)
  obtain ⟨x', y', hx', hy', hmeets⟩ := hfactor t ht p hp x y hxy
  refine ⟨x', y', hx', hy', hmeets (.product ht hk ?_)⟩
  rw [B.term_concat ⟨t.first, k⟩ p, term, hy]
  exact hy'

/-- Two arithmetics that succeed on related numbers, with related results wherever one of them meets
its result, have related values. -/
theorem sum_simulates (hsummand : ∀ p ∈ s.summands, ∀ x y z w, R x y → R z w →
      ∃ x' y', A.apply p.1 x z = .ok x' ∧ B.apply p.1 y w = .ok y' ∧ (B.Meets s y' → R x' y')) :
    ∃ x y, A.sum s = .ok x ∧ B.sum s = .ok y ∧ R x y := by
  obtain ⟨x₀, y₀, hx₀, hy₀, hstart⟩ := term_simulates hoperand hfactor
    (List.mem_cons_self : s.first ∈ s.terms)
  rw [sum, sum, hx₀, hy₀]
  refine foldlM_simulates hstart ?_
  intro k p hk x y hy hxy
  have hp : p ∈ s.summands := hk.subset (by simp)
  have hterm : p.2 ∈ s.terms := List.mem_cons_of_mem _ (List.mem_map_of_mem hp)
  obtain ⟨z, w, hz, hw, hzw⟩ := term_simulates hoperand hfactor hterm
  obtain ⟨x', y', hx', hy', hmeets⟩ := hsummand p hp x y z w hxy hzw
  have hsum : B.summand y p = .ok y' := by
    rw [summand, hw]
    exact hy'
  refine ⟨x', y', ?_, hsum, hmeets (.sum hk ?_)⟩
  · rw [summand, hz]
    exact hx'
  · rw [sum_concat, sum, hy₀]
    show (k.foldlM B.summand y₀ >>= _) = _
    rw [hy]
    exact hsum

end Simulation

/-! ## What reaches the value -/

section Absorption

variable {A : Arithmetic α ε} {P : α → Prop} {s : TermSum}
  (hfactor : ∀ t ∈ s.terms, ∀ p ∈ t.factors, ∀ x y, A.factor x p = .ok y →
    P x ∨ P (A.ofNumeral p.2) → P y)

include hfactor in
theorem term_absorbs {t : Term} (ht : t ∈ s.terms) {k l : List (Operator × Numeral)}
    (hl : k ++ l = t.factors) {x v : α} (hv : l.foldlM A.factor x = .ok v)
    (h : P x ∨ ∃ p ∈ l, P (A.ofNumeral p.2)) : P v := by
  refine foldlM_absorbs (fun p hp => hfactor t ht p ?_) hv h
  rw [← hl]
  exact List.mem_append_right k hp

variable (hsummand : ∀ p ∈ s.summands, ∀ x z y, A.apply p.1 x z = .ok y → P x ∨ P z → P y)

include hsummand in
theorem sum_absorbs {k l : List (Operator × Term)} (hl : k ++ l = s.summands) {x v : α}
    (hv : l.foldlM A.summand x = .ok v)
    (h : P x ∨ ∃ p ∈ l, ∀ w, A.term p.2 = .ok w → P w) : P v := by
  refine foldlM_absorbs ?_ hv h
  intro p hp x y hy hbad
  obtain ⟨w, hw, hy⟩ := exists_of_bind_eq_ok hy
  have hmem : p ∈ s.summands := by
    rw [← hl]
    exact List.mem_append_right k hp
  exact hsummand p hmem x w y hy (hbad.imp_right fun hbad => hbad w hw)

include hfactor hsummand in
/-- What every operation passes on, from either side, reaches the value from everything that an
evaluation meets. -/
theorem Meets.absorbed {x v : α} (hx : A.Meets s x) (hP : P x) (hv : A.sum s = .ok v) : P v := by
  obtain ⟨w, hw, hrun⟩ := exists_of_bind_eq_ok hv
  have hterm : ∀ t ∈ s.terms, (∀ y, A.term t = .ok y → P y) → P v := by
    intro t ht h
    refine sum_absorbs hsummand (List.nil_append _) hrun ?_
    rcases List.mem_cons.1 ht with rfl | hmem
    · exact .inl (h w hw)
    · obtain ⟨p, hp, rfl⟩ := List.mem_map.1 hmem
      exact .inr ⟨p, hp, h⟩
  cases hx with
  | @operand t n ht hn =>
    refine hterm t ht fun y hy => term_absorbs hfactor ht (List.nil_append _) hy ?_
    rcases Term.number_mem_tokens.1 hn with rfl | ⟨p, hp, rfl⟩
    · exact .inl hP
    · exact .inr ⟨p, hp, hP⟩
  | @product t k _ ht hbegin hk =>
    refine hterm t ht fun y hy => ?_
    obtain ⟨l, hl⟩ := hbegin
    rw [term, ← hl, List.foldlM_append] at hy
    change (A.term ⟨t.first, k⟩ >>= _) = _ at hy
    rw [hk] at hy
    exact term_absorbs hfactor ht hl hy (.inl hP)
  | @sum k _ hbegin hk =>
    obtain ⟨l, hl⟩ := hbegin
    obtain ⟨w', hw', hk⟩ := exists_of_bind_eq_ok hk
    obtain rfl := Except.ok.inj (hw.symm.trans hw')
    rw [← hl, List.foldlM_append, hk] at hrun
    exact sum_absorbs hsummand hl hrun (.inl hP)

end Absorption

end Arithmetic

/-! ## The terms of an expression -/

namespace Expression

theorem mem_of_mem_cutTerms (r : List (Operator × Numeral)) :
    (∀ p ∈ (cutTerms r).1, p ∈ r) ∧ ∀ q ∈ (cutTerms r).2, ∀ p ∈ q.2.factors, p ∈ r := by
  induction r with
  | nil => simp [cutTerms]
  | cons p r ih =>
    obtain ⟨hfactors, hsummands⟩ := ih
    have htail : ∀ p' ∈ r, p' ∈ p :: r := fun p' hp' => List.mem_cons_of_mem p hp'
    cases hp : p.1.isAdditive with
    | true =>
      rw [cutTerms_cons_additive hp]
      refine ⟨by simp, List.forall_mem_cons.2 ⟨?_, ?_⟩⟩
      · exact fun p' hp' => htail p' (hfactors p' hp')
      · exact fun q hq p' hp' => htail p' (hsummands q hq p' hp')
    | false =>
      rw [cutTerms_cons_tight hp]
      refine ⟨List.forall_mem_cons.2 ⟨List.mem_cons_self, ?_⟩, ?_⟩
      · exact fun p' hp' => htail p' (hfactors p' hp')
      · exact fun q hq p' hp' => htail p' (hsummands q hq p' hp')

theorem mem_tail_of_mem_factors {e : Expression} {t : Term} (ht : t ∈ e.terms.terms)
    {p : Operator × Numeral} (hp : p ∈ t.factors) : p ∈ e.tail := by
  obtain ⟨hfactors, hsummands⟩ := mem_of_mem_cutTerms e.tail
  rcases List.mem_cons.1 ht with rfl | hmem
  · exact hfactors p hp
  · obtain ⟨q, hq, rfl⟩ := List.mem_map.1 hmem
    exact hsummands q hq p hp

/-- Terms are added and subtracted only. -/
theorem ne_div_of_mem_summands {e : Expression} {p : Operator × Term}
    (hp : p ∈ e.terms.summands) : p.1 ≠ .div := by
  intro hdiv
  have hadditive := (e.isCut_terms.2 p hp).1
  rw [hdiv] at hadditive
  cases hadditive

end Expression

end PocketCalculator
