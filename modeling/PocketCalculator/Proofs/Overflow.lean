import PocketCalculator.Proofs.ExactDoubles
import PocketCalculator.Proofs.PartialResults
import PocketCalculator.Proofs.ZeroDivisions

/-!
# Overflow

A result is checked only once, at the end. This is enough, since what is not finite stays so under
every operation: only dividing by it makes a finite number of it, which is zero. A numeral is not
finite from half a unit above the largest double on. Main statements:
`Numeral.isFinite_toFloat_iff`, `standsFor_div_of_isInf` and `compute_ok_iff_all_finite`.
-/

namespace PocketCalculator

open Float.Model (UnpackedFloat Format totalExponent)
open Float.Model.UnpackedFloat (Sign)

/-! ## Numerals that are too large -/

/-- A quotient is rounded to less than an even number if it lacks more than half a unit. -/
theorem roundDiv_lt_iff (num : ℕ) {den q : ℕ} (h : 0 < den) (hq : Even q) :
    roundDiv num den < q ↔ 2 * num + den < 2 * (q * den) := by
  obtain ⟨hlow, hhigh⟩ := two_mul_roundDiv_mul_le num h
  constructor
  · intro hlt
    have hnext : (roundDiv num den + 1) * den ≤ q * den := Nat.mul_le_mul_right den hlt
    rw [Nat.add_mul, Nat.one_mul] at hnext
    by_contra hge
    -- Half a unit below `q` the quotient is rounded to `q`, which is even, and not below it.
    have htie : 2 * |(num : ℤ) - roundDiv num den * den| = den := by
      rw [← Nat.cast_mul, abs_of_nonneg (by omega)]
      omega
    have heven := roundDiv_even_of_half (two_mul_mod_of_tie h htie)
    have hsucc : q * den = (roundDiv num den + 1) * den := by
      rw [Nat.add_mul, Nat.one_mul]
      omega
    rw [Nat.eq_of_mul_eq_mul_right h hsucc, Nat.even_iff] at hq
    omega
  · intro hlt
    by_contra hge
    have hle : q * den ≤ roundDiv num den * den := Nat.mul_le_mul_right den (not_lt.1 hge)
    omega

/-- A number that has 53 binary digits gets no zeros behind it. -/
theorem round_eq_roundWithAccuracy (s : Sign) {k : ℕ} (hk : 2 ^ 52 ≤ k) :
    UnpackedFloat.round .binary64 s k 0 =
      UnpackedFloat.roundWithAccuracy .binary64 s k 0 .exact := by
  have hlog : 52 ≤ k.log2 := (Nat.le_log2 (by omega)).2 hk
  have hshift : (0 - max ((k.log2 : ℤ) + 1 + 0 - 53) (-1074)).toNat = 0 := by omega
  rw [UnpackedFloat.round, targetExponent_eq]
  simp only [UnpackedFloat.decreaseExponent, hshift, Nat.shiftLeft_zero, Nat.cast_zero, sub_zero]

/-- A number that has 53 binary digits is converted to the first 53 of them, rounded, unless their
exponent is too large. -/
theorem exists_unpack_ofNat {k : ℕ} (hk : 2 ^ 52 ≤ k) :
    ∃ (m : ℕ) (e : ℤ) (h : 0 < m),
      (Float.Model.ofNat k).unpack =
        (if e ≤ 971 then .finite .positive m e h else .infinity .positive) ∧
      2 ^ 52 ≤ m ∧ m < 2 ^ 53 ∧ (m * 2 ^ e : ℚ) = roundedValue k 0 := by
  obtain ⟨m, e, h, hfinite, hlow, hhigh, he, hvalue⟩ :=
    roundWithAccuracy_normal .positive hk (e := 0) (by omega)
  refine ⟨m, e, h, ?_, hlow, hhigh, hvalue⟩
  rw [Float.Model.ofNat, ofNat_eq_round (by omega), round_eq_roundWithAccuracy _ hk, hfinite,
    unpack_pack_normal _ h hlow hhigh (by omega)]

/-- The exponent after rounding is that of the first 53 digits, unless these become one more. -/
theorem isFinite_ofNat_iff {k : ℕ} (hk : 2 ^ 52 ≤ k) :
    (Float.Model.ofNat k).unpack.isFinite = true ↔
      k.log2 - 52 ≤ 970 ∨ k.log2 - 52 = 971 ∧ roundDiv k (2 ^ (k.log2 - 52)) < 2 ^ 53 := by
  obtain ⟨m, e, h, hunpack, hlow, hhigh, hvalue⟩ := exists_unpack_ofNat hk
  obtain ⟨hrlow, hrhigh⟩ := roundedMantissa_leadingDigits_bounds hk
  rw [roundedMantissa_leadingDigits] at hrlow hrhigh
  rw [roundedValue] at hvalue
  generalize roundDiv k (2 ^ (k.log2 - 52)) = r at *
  generalize k.log2 - 52 = j at *
  have hiff : (Float.Model.ofNat k).unpack.isFinite = true ↔ e ≤ 971 := by
    rw [hunpack]
    split_ifs with hfits
    · exact iff_of_true rfl hfits
    · exact iff_of_false Bool.false_ne_true hfits
  rw [hiff]
  have hbelow := add_exponent_lt hrlow hhigh hvalue.symm
  have habove := add_exponent_lt hlow (by omega : r < 2 ^ 54) hvalue
  rcases lt_or_eq_of_le hrhigh with hlt | heq
  · have hkept := add_exponent_lt hlow hlt hvalue
    push_cast at hbelow habove hkept
    omega
  · have hcarried := add_exponent_lt heq.ge hhigh hvalue.symm
    push_cast at hbelow habove hcarried
    omega

/-- The largest double has 53 digits of one, and from half a unit above it on a number is rounded to
infinity. -/
theorem Numeral.isFinite_toFloat_iff (n : Numeral) :
    n.toFloat.isFinite = true ↔ n.value < 2 ^ 1024 - 2 ^ 970 := by
  have hthreshold : (2 : ℕ) ^ 1024 = 2 ^ 54 * 2 ^ 970 := by rw [← pow_add]
  have hunit : (2 : ℕ) ^ 53 ≤ 2 ^ 970 := pow_le_pow_right₀ one_le_two (by omega)
  have hdouble : (2 : ℕ) ^ 971 = 2 ^ 1 * 2 ^ 970 := by rw [← pow_add]
  rw [hthreshold]
  by_cases hk : n.value < 2 ^ 52
  · have hwhole : |(n.value : ℤ)| ≤ 2 ^ 53 := by
      rw [Nat.abs_cast]
      omega
    refine iff_of_true (n.standsFor_toFloat ?_).1 (by omega)
    exact_mod_cast isWholeDouble_intCast hwhole
  · show (Float.Model.ofNat n.value).unpack.isFinite = true ↔ _
    rw [isFinite_ofNat_iff (by omega)]
    generalize n.value = k at hk
    have hlog : 52 ≤ k.log2 := (Nat.le_log2 (by omega)).2 (by omega)
    have hlow : 2 ^ k.log2 ≤ k := Nat.log2_self_le (by omega)
    have hhigh : k < 2 ^ (k.log2 + 1) := Nat.lt_log2_self
    obtain ⟨j, hj⟩ := Nat.exists_eq_add_of_le hlog
    rw [hj] at hlow hhigh
    rw [hj, Nat.add_sub_cancel_left]
    rcases lt_trichotomy j 971 with hless | rfl | hmore
    · have hle : (2 : ℕ) ^ (52 + j + 1) ≤ 2 ^ 53 * 2 ^ 970 := by
        rw [← pow_add]
        exact pow_le_pow_right₀ one_le_two (by omega)
      exact iff_of_true (.inl (by omega)) (by omega)
    · have heven : Even (2 ^ 53) := ⟨2 ^ 52, by norm_num⟩
      rw [roundDiv_lt_iff k (by positivity) heven, hdouble]
      omega
    · have hge : (2 : ℕ) ^ 54 * 2 ^ 970 ≤ 2 ^ (52 + j) := by
        rw [← pow_add]
        exact pow_le_pow_right₀ one_le_two (by omega)
      exact iff_of_false (by omega) (by omega)

/-! ## What is not finite stays so -/

section Absorption

variable {u v : UnpackedFloat}

theorem isFinite_pack_eq_false (h : u.isFinite = false) :
    (Float.Model.pack u).unpack.isFinite = false := by
  cases u with
  | notANumber =>
    have hunpack : (Float.Model.pack .notANumber).unpack = .notANumber :=
      UnpackedFloat.unpack_packedNaN
    rw [hunpack]
    rfl
  | infinity s =>
    have hunpack : (Float.Model.pack (.infinity s)).unpack = .infinity s :=
      unpack_packedInfinity s
    rw [hunpack]
    rfl
  | zero s => cases h
  | finite s m e hm => cases h

theorem isFinite_neg (u : UnpackedFloat) : u.neg.isFinite = u.isFinite := by
  cases u <;> rfl

/-- Two infinities that cancel out leave what is not a number. -/
theorem isFinite_add_eq_false (h : u.isFinite = false ∨ v.isFinite = false) :
    (UnpackedFloat.add .binary64 u v).isFinite = false := by
  cases u <;> cases v <;> grind [UnpackedFloat.add, UnpackedFloat.isFinite]

theorem isFinite_mul_eq_false (h : u.isFinite = false ∨ v.isFinite = false) :
    (UnpackedFloat.mul .binary64 u v).isFinite = false := by
  cases u <;> cases v <;> grind [UnpackedFloat.mul, UnpackedFloat.isFinite]

theorem isFinite_div_eq_false (hu : u.isFinite = false) (hv : v.isFinite = true) :
    (UnpackedFloat.div .binary64 u v).isFinite = false := by
  cases u <;> cases v <;> grind [UnpackedFloat.div, UnpackedFloat.isFinite]

end Absorption

/-- An operation on doubles passes on from either side that a number is not finite, except for a
divisor. -/
theorem isFinite_apply_eq_false {o : Operator} {x y v : Float} (hv : doubles.apply o x y = .ok v)
    (hdiv : o = .div → y.isFinite = true) (h : x.isFinite = false ∨ y.isFinite = false) :
    v.isFinite = false := by
  cases o with
  | add =>
    obtain rfl := Except.ok.inj hv
    exact isFinite_pack_eq_false (isFinite_add_eq_false h)
  | sub =>
    obtain rfl := Except.ok.inj hv
    have hneg : x.toModel.unpack.isFinite = false ∨ y.toModel.unpack.neg.isFinite = false := by
      rw [isFinite_neg]
      exact h
    have hsub := isFinite_add_eq_false hneg
    rw [← unpacked_sub_eq] at hsub
    exact isFinite_pack_eq_false hsub
  | mul =>
    obtain rfl := Except.ok.inj hv
    exact isFinite_pack_eq_false (isFinite_mul_eq_false h)
  | div =>
    have hy := hdiv rfl
    have hx := h.resolve_right (by simp [hy])
    change (if y == 0 then _ else _) = _ at hv
    split at hv
    · cases hv
    · obtain rfl := Except.ok.inj hv
      exact isFinite_pack_eq_false (isFinite_div_eq_false hx hy)

/-- What overflows as a divisor is lost: the quotient is zero. -/
theorem standsFor_div_of_isInf {x y : Float} (hx : x.isFinite = true) (hy : y.isInf = true) :
    StandsFor (x / y) 0 := by
  have hinfinite : ∃ t, y.toModel.unpack = .infinity t := by
    change y.toModel.unpack.isInf = true at hy
    cases hu : y.toModel.unpack <;> simp [hu, UnpackedFloat.isInf] at hy ⊢
  obtain ⟨t, ht⟩ := hinfinite
  have hfinite : Denotes x.toModel.unpack (exactValue x) := denotes_unpack_iff.2 ⟨hx, rfl⟩
  have hwhole : IsWholeDouble 0 := by exact_mod_cast isWholeDouble_intCast (z := 0) (by simp)
  apply denotes_unpack_iff.1
  show Denotes (Float.Model.pack (UnpackedFloat.div _ x.toModel.unpack y.toModel.unpack)).unpack 0
  rw [ht]
  generalize x.toModel.unpack = u, exactValue x = q at hfinite
  cases hfinite <;> exact (Denotes.zero _).pack hwhole

/-! ## Expressions -/

/-- A divisor that neither is zero nor overflows. -/
def Numeral.IsSafeDivisor (n : Numeral) : Prop :=
  ¬IsZeroText n.text ∧ n.value < 2 ^ 1024 - 2 ^ 970

theorem isFinite_eq_false_of_meets {e : Expression} {x v : Float}
    (hdiv : ∀ n ∈ e.divisors, n.IsSafeDivisor) (hx : doubles.Meets e.terms x)
    (hfinite : x.isFinite = false) (hv : doubles.sum e.terms = .ok v) : v.isFinite = false := by
  refine hx.absorbed (P := fun x => x.isFinite = false) ?_ ?_ hfinite hv
  · rintro t ht ⟨o, n⟩ hp y w hw h
    refine isFinite_apply_eq_false hw ?_ h
    rintro rfl
    have hn := hdiv n (Expression.mem_divisors.2 (Expression.mem_tail_of_mem_factors ht hp))
    exact n.isFinite_toFloat_iff.2 hn.2
  · rintro ⟨o, t⟩ hp y z w hw h
    have hnodiv : o ≠ .div := Expression.ne_div_of_mem_summands hp
    exact isFinite_apply_eq_false hw (fun hdiv => absurd hdiv hnodiv) h

/-- Overflow is never masked except by a divisor: if none is zero or overflows, a text has a value
exactly if everything that its evaluation meets is finite, and otherwise it fails since the result
is not finite. A numeral overflows from half a unit above the largest double on. -/
theorem compute_ok_iff_all_finite {text : String} {e : Expression}
    (h : Expression.ofText text = .ok e) (hdiv : ∀ n ∈ e.divisors, n.IsSafeDivisor) :
    ((∃ v, compute text = .ok v) ↔ ∀ x, doubles.Meets e.terms x → x.isFinite = true) ∧
    ((∃ x, doubles.Meets e.terms x ∧ (x.isInf = true ∨ x.isNaN = true)) →
      ∃ v, compute text = .error (.notFinite v) ∧
        (EvaluationError.notFinite v).message = "Result is not finite: " ++ displayText v) ∧
    ∀ n : Numeral, n.toFloat.isFinite = true ↔ n.value < 2 ^ 1024 - 2 ^ 970 := by
  have hnonzero : ∀ p ∈ e.tail, isZeroDivision p = false := by
    intro p hp
    by_contra hzero
    obtain ⟨hop, hvalue⟩ := (isZeroDivision_iff p).1 (eq_true_of_ne_false hzero)
    have hmem : p.2 ∈ e.divisors := Expression.mem_divisors.2 (by rwa [← hop])
    exact (hdiv p.2 hmem).1 (p.2.isZeroText_text_iff.2 hvalue)
  obtain ⟨v, hv⟩ := exists_sum_terms hnonzero
  rw [compute_of_sum h hv]
  refine ⟨⟨?_, ?_⟩, ?_, Numeral.isFinite_toFloat_iff⟩
  · rintro ⟨w, hw⟩ x hx
    by_contra hfinite
    rw [isFinite_eq_false_of_meets hdiv hx (eq_false_of_ne_true hfinite) hv] at hw
    cases hw
  · intro hall
    exact ⟨v, if_pos (hall v (.sum List.prefix_rfl hv))⟩
  · rintro ⟨x, hx, hspecial⟩
    have hfinite := isFinite_eq_false_of_meets hdiv hx ((isFinite_eq_false_iff x).2 hspecial) hv
    rw [hfinite]
    exact ⟨v, rfl, rfl⟩

/-- Two finite numerals with an infinite product, of which an infinite quotient is taken away. -/
theorem compute_ok_iff_all_finite_difference :
    let e : Expression := ⟨.ofNat (10 ^ 160),
      [(.mul, .ofNat (10 ^ 160)), (.sub, .ofNat (10 ^ 400)), (.div, .ofNat 3)]⟩
    let text := joinTexts (Token.texts e.tokens)
    Expression.ofText text = .ok e ∧ (∀ n ∈ e.divisors, n.IsSafeDivisor) ∧
      (∃ x, doubles.Meets e.terms x ∧ (x.isInf = true ∨ x.isNaN = true)) ∧
      ∃ v, compute text = .error (.notFinite v) ∧
        (EvaluationError.notFinite v).message = "Result is not finite: " ++ displayText v := by
  intro e text
  have h : Expression.ofText text = .ok e := Expression.ofText_joinTexts e
  have hthree : (Numeral.ofNat 3).IsSafeDivisor := by
    rw [Numeral.IsSafeDivisor, Numeral.isZeroText_text_iff, Numeral.ofNat_value]
    decide +kernel
  have hdiv : ∀ n ∈ e.divisors, n.IsSafeDivisor := List.forall_mem_singleton.2 hthree
  have hmet : ∃ x ∈ doubles.met e.terms, x.isInf = true ∨ x.isNaN = true := by decide +kernel
  obtain ⟨x, hx, hspecial⟩ := hmet
  have hmeets : ∃ x, doubles.Meets e.terms x ∧ (x.isInf = true ∨ x.isNaN = true) :=
    ⟨x, Arithmetic.mem_met_iff.1 hx, hspecial⟩
  exact ⟨h, hdiv, hmeets, (compute_ok_iff_all_finite h hdiv).2.1 hmeets⟩

end PocketCalculator
