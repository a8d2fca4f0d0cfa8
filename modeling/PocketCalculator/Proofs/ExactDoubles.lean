import PocketCalculator.Proofs.NearestDecimals
import PocketCalculator.Proofs.NumeralDoubles

/-!
# Whole numbers in double precision

A whole number with at most 53 binary digits, not counting the zeros behind them, is a double, and
an operation on doubles that has such a number as its exact result gives that number. Main
statements: `StandsFor.add`, `StandsFor.sub`, `StandsFor.mul` and `StandsFor.div`.

## Main definitions

* `StandsFor` — a finite double and the number it stands for.
* `Denotes` — the same for a double that is taken apart.
* `IsWholeDouble` — the whole numbers that are doubles.
-/

namespace PocketCalculator

open Float.Model (UnpackedFloat Format totalExponent)
open Float.Model.UnpackedFloat (Sign)

/-! ## Powers of two -/

/-- Two ways to write a number by its binary digits agree on how large it is. -/
theorem add_exponent_lt {m n a b : ℕ} {e f : ℤ} (hm : 2 ^ a ≤ m) (hn : n < 2 ^ b)
    (h : (m * 2 ^ e : ℚ) = n * 2 ^ f) : a + e < b + f := by
  have hlow : (2 : ℚ) ^ (a + e) ≤ m * 2 ^ e := by
    rw [zpow_add₀ two_ne_zero, zpow_natCast]
    exact mul_le_mul_of_nonneg_right (by exact_mod_cast hm) (by positivity)
  have hhigh : (n * 2 ^ f : ℚ) < 2 ^ (b + f) := by
    rw [zpow_add₀ two_ne_zero, zpow_natCast]
    exact mul_lt_mul_of_pos_right (by exact_mod_cast hn) (by positivity)
  rw [h] at hlow
  exact (zpow_lt_zpow_iff_right₀ one_lt_two).1 (lt_of_le_of_lt hlow hhigh)

/-- Two ways to write a number by its binary digits differ by zeros behind the digits. -/
theorem mul_two_pow_eq {m n a b : ℕ} {e f : ℤ} (h : (m * 2 ^ e : ℚ) = n * 2 ^ f)
    (hshift : f + (a - e) = b) : m * 2 ^ a = n * 2 ^ b := by
  have hcast : (m * 2 ^ a : ℚ) = n * 2 ^ b := by
    calc (m * 2 ^ a : ℚ) = m * 2 ^ e * 2 ^ (a - e) := by
          rw [mul_assoc, ← zpow_add₀ two_ne_zero, add_sub_cancel, zpow_natCast]
      _ = n * 2 ^ f * 2 ^ (a - e) := by rw [h]
      _ = n * 2 ^ b := by
          rw [mul_assoc, ← zpow_add₀ two_ne_zero, hshift, zpow_natCast]
  exact_mod_cast hcast

/-- A number with 53 binary digits and zeros behind them is not changed by rounding. -/
theorem roundedValue_eq {m n : ℕ} {e f : ℤ} (hm : 2 ^ 52 ≤ m) (hn : n < 2 ^ 53)
    (h : (m * 2 ^ e : ℚ) = n * 2 ^ f) : roundedValue m e = m * 2 ^ e := by
  have hlog : 52 ≤ m.log2 := (Nat.le_log2 (by omega)).2 hm
  obtain ⟨j, hj⟩ := Nat.exists_eq_add_of_le hlog
  have hself : 2 ^ (52 + j) ≤ m := by
    rw [← hj]
    exact Nat.log2_self_le (by omega)
  -- The last digits of `m` are zeros, since those of `n` begin no further to the left.
  have hexponent := add_exponent_lt hself hn h
  push_cast at hexponent
  obtain ⟨i, hi⟩ := Int.le.dest (by omega : e + j ≤ f)
  have hzeros : m * 2 ^ 0 = n * 2 ^ (i + j) := mul_two_pow_eq h (by push_cast; omega)
  rw [pow_zero, mul_one, pow_add, ← mul_assoc] at hzeros
  have hkept : roundDiv m (2 ^ j) = n * 2 ^ i := by
    rw [hzeros, roundDiv_mul_right _ (Nat.two_pow_pos j)]
  rw [roundedValue, hj, Nat.add_sub_cancel_left, hkept, hzeros, zpow_add₀ two_ne_zero, zpow_natCast]
  push_cast
  ring

/-! ## Signs -/

theorem signed_neg (s : Sign) (q : ℚ) : signed (-s) q = -signed s q := by
  cases s
  · exact (neg_neg q).symm
  · rfl

theorem signed_mul (s t : Sign) (p q : ℚ) : signed (s * t) (p * q) = signed s p * signed t q := by
  cases s <;> cases t
  · exact (neg_mul_neg p q).symm
  · exact (neg_mul p q).symm
  · exact (mul_neg p q).symm
  · rfl

theorem signed_div (s t : Sign) (p q : ℚ) : signed (s / t) (p / q) = signed s p / signed t q := by
  cases s <;> cases t
  · exact (neg_div_neg_eq p q).symm
  · exact (neg_div q p).symm
  · exact (div_neg p).symm
  · rfl

theorem abs_signed (s : Sign) (q : ℚ) : |signed s q| = |q| := by
  cases s
  · exact abs_neg q
  · rfl

theorem cast_apply (s : Sign) (z : ℤ) : ((s.apply z : ℤ) : ℚ) = signed s z := by
  cases s
  · exact Int.cast_neg z
  · rfl

theorem signed_mul_right (s : Sign) (p q : ℚ) : signed s (p * q) = signed s p * q := by
  cases s
  · exact (neg_mul p q).symm
  · rfl

/-! ## Doubles and the numbers they stand for -/

/-- A finite double with the number it stands for. -/
def StandsFor (x : Float) (q : ℚ) : Prop :=
  x.isFinite = true ∧ exactValue x = q

/-- A double that is taken apart, with the number it stands for. Only the smallest exponent goes
with fewer than 53 digits. -/
inductive Denotes : UnpackedFloat → ℚ → Prop
  | zero (s : Sign) : Denotes (.zero s) 0
  | finite (s : Sign) {m : ℕ} {e : ℤ} (hpos : 0 < m) (hdigits : m < 2 ^ 53) (he : -1074 ≤ e)
      (hnormal : 2 ^ 52 ≤ m ∨ e = -1074) : Denotes (.finite s m e hpos) (signed s (m * 2 ^ e))

/-- The digits and the exponent of a double are within the bounds of the format. -/
theorem bounds_of_unpack {x : Float.Model} {s : Sign} {m : ℕ} {e : ℤ} {hm : 0 < m}
    (h : x.unpack = .finite s m e hm) :
    m < 2 ^ 53 ∧ -1074 ≤ e ∧ (2 ^ 52 ≤ m ∨ e = -1074) ∧ e ≤ 971 := by
  revert h
  unfold Float.Model.unpack
  fun_cases UnpackedFloat.unpack with
  | case1 | case2 | case3 => exact UnpackedFloat.noConfusion
  | case4 digits biased exponent _ _ _ hzeros =>
    intro h
    injection h with _ hm he
    have hlt : digits.toNat < 2 ^ 52 := digits.isLt
    have hexponent : exponent = (biased.toNat : ℤ) - 1075 := rfl
    have hzero : biased.toNat = 0 := by
      rw [hzeros]
      rfl
    omega
  | case5 digits biased exponent _ _ hones hzeros =>
    intro h
    injection h with _ hm he
    have hlt : digits.toNat < 2 ^ 52 := digits.isLt
    have hexponent : exponent = (biased.toNat : ℤ) - 1075 := rfl
    have hne : biased.toNat ≠ 0 := fun hzero => hzeros (BitVec.eq_of_toNat_eq hzero)
    have hmax : biased.toNat ≠ 2047 := fun hmax => hones (BitVec.eq_of_toNat_eq hmax)
    have hbiased : biased.toNat < 2 ^ 11 := biased.isLt
    have hdigits : (1#1 ++ digits).toNat = 2 ^ 52 + digits.toNat := by
      rw [BitVec.toNat_append, ← Nat.shiftLeft_add_eq_or_of_lt hlt]
      rfl
    omega

theorem denotes_unpack_iff {x : Float} {q : ℚ} :
    Denotes x.toModel.unpack q ↔ StandsFor x q := by
  have hunpack : x.isFinite = x.toModel.unpack.isFinite := rfl
  rw [StandsFor, hunpack, exactValue]
  constructor
  · intro h
    generalize x.toModel.unpack = u at h
    cases h <;> exact ⟨rfl, rfl⟩
  · rintro ⟨hfinite, rfl⟩
    cases hu : x.toModel.unpack with
    | notANumber => simp [hu, UnpackedFloat.isFinite] at hfinite
    | infinity s => simp [hu, UnpackedFloat.isFinite] at hfinite
    | zero s => exact .zero s
    | finite s m e hm =>
      obtain ⟨hdigits, he, hnormal, -⟩ := bounds_of_unpack hu
      exact .finite s hm hdigits he hnormal

theorem Denotes.neg {u : UnpackedFloat} {q : ℚ} (h : Denotes u q) : Denotes u.neg (-q) := by
  cases h with
  | zero s =>
    rw [neg_zero]
    exact .zero (-s)
  | finite s hpos hdigits he hnormal =>
    rw [← signed_neg]
    exact .finite (-s) hpos hdigits he hnormal

/-! ## Whole results -/

/-- A whole number with at most 53 binary digits that is not too large. -/
def IsWholeDouble (q : ℚ) : Prop :=
  ∃ n f : ℕ, n < 2 ^ 53 ∧ f ≤ 971 ∧ |q| = n * 2 ^ f

theorem isWholeDouble_intCast {z : ℤ} (h : |z| ≤ 2 ^ 53) : IsWholeDouble z := by
  have habs : |(z : ℚ)| = z.natAbs := by rw [Nat.cast_natAbs, Int.cast_abs]
  rw [Int.abs_eq_natAbs] at h
  rcases lt_or_eq_of_le h with hlt | heq
  · exact ⟨z.natAbs, 0, by omega, by omega, by rw [habs, pow_zero, mul_one]⟩
  · have hdigits : z.natAbs = 2 ^ 52 * 2 ^ 1 := by omega
    exact ⟨2 ^ 52, 1, by omega, by omega, by rw [habs, hdigits]; norm_num⟩

theorem IsWholeDouble.of_signed {s : Sign} {m : ℕ} {e : ℤ}
    (h : IsWholeDouble (signed s (m * 2 ^ e))) :
    ∃ n f : ℕ, n < 2 ^ 53 ∧ f ≤ 971 ∧ (m * 2 ^ e : ℚ) = n * 2 ^ (f : ℤ) := by
  obtain ⟨n, f, hn, hf, habs⟩ := h
  refine ⟨n, f, hn, hf, ?_⟩
  rw [abs_signed, abs_of_nonneg (by positivity)] at habs
  rw [habs, zpow_natCast]

theorem pos_of_mul_two_zpow_eq {m n : ℕ} {e f : ℤ} (hm : 0 < m)
    (h : (m * 2 ^ e : ℚ) = n * 2 ^ f) : 0 < n := by
  rw [Nat.pos_iff_ne_zero]
  rintro rfl
  have hpos : (0 : ℚ) < m * 2 ^ e := by positivity
  rw [h, Nat.cast_zero, zero_mul] at hpos
  exact lt_irrefl _ hpos

/-- A whole number other than zero is at least one. -/
theorem IsWholeDouble.exponent_pos {s : Sign} {m b : ℕ} {e : ℤ}
    (h : IsWholeDouble (signed s (m * 2 ^ e))) (hm : 0 < m) (hlt : m < 2 ^ b) : 0 < b + e := by
  obtain ⟨n, f, -, -, hvalue⟩ := h.of_signed
  have hone : 2 ^ 0 ≤ n := pos_of_mul_two_zpow_eq hm hvalue
  have hexponent := add_exponent_lt hone hlt hvalue.symm
  omega

/-- Rounding and packing do not change a whole double. -/
theorem denotes_pack_roundWithAccuracy (s : Sign) {m : ℕ} {e : ℤ} (hm : 2 ^ 52 ≤ m) (he : -1074 ≤ e)
    (hwhole : IsWholeDouble (signed s (m * 2 ^ e))) :
    Denotes (Float.Model.pack (UnpackedFloat.roundWithAccuracy .binary64 s m e .exact)).unpack
      (signed s (m * 2 ^ e)) := by
  obtain ⟨n, f, hn, hf, hvalue⟩ := hwhole.of_signed
  obtain ⟨m', e', h, hfinite, hlow, hhigh, he', hrounded⟩ := roundWithAccuracy_normal s hm he
  rw [roundedValue_eq hm hn hvalue] at hrounded
  have hexponent := add_exponent_lt hlow hn (hrounded.trans hvalue)
  rw [hfinite, unpack_pack_normal s h hlow hhigh (by omega), if_pos (by omega), ← hrounded]
  exact .finite s h hhigh (by omega) (.inl hlow)

theorem denotes_pack_round (s : Sign) {k : ℕ} {f : ℤ} (hk : 0 < k) (hf : -1074 ≤ f)
    (hwhole : IsWholeDouble (signed s (k * 2 ^ f))) :
    Denotes (Float.Model.pack (UnpackedFloat.round .binary64 s k f)).unpack
      (signed s (k * 2 ^ f)) := by
  have hlog := hwhole.exponent_pos hk Nat.lt_log2_self
  obtain ⟨m, e, hdigits, hm, he, hm'⟩ := decreaseExponent_normal hk hf (by omega)
  rw [UnpackedFloat.round]
  simp only [hdigits]
  rw [← hm'] at hwhole ⊢
  exact denotes_pack_roundWithAccuracy s hm he hwhole

theorem unpack_pack_zero (s : Sign) : (Float.Model.pack (.zero s)).unpack = .zero s :=
  UnpackedFloat.unpack_packedZero

theorem denotes_pack_normalize (z : ℤ) {f : ℤ} (hf : -1074 ≤ f) (s : Sign)
    (hwhole : IsWholeDouble (z * 2 ^ f)) :
    Denotes (Float.Model.pack (UnpackedFloat.normalize .binary64 z f s)).unpack (z * 2 ^ f) := by
  rw [UnpackedFloat.normalize]
  rcases lt_trichotomy z 0 with hz | rfl | hz
  · have hk : (z : ℚ) = -(-z).toNat := by
      have hz' : z = -((-z).toNat : ℤ) := by omega
      exact_mod_cast congrArg (Int.cast : ℤ → ℚ) hz'
    have hvalue : (z * 2 ^ f : ℚ) = signed .negative ((-z).toNat * 2 ^ f) := by
      rw [hk, neg_mul]
      rfl
    rw [hvalue] at hwhole ⊢
    rw [Int.compare_eq_lt.2 hz]
    exact denotes_pack_round .negative (by omega) hf hwhole
  · rw [Int.compare_eq_eq.2 rfl, Int.cast_zero, zero_mul]
    show Denotes (Float.Model.pack (.zero s)).unpack 0
    rw [unpack_pack_zero]
    exact .zero s
  · obtain ⟨k, rfl⟩ := Int.eq_ofNat_of_zero_le hz.le
    rw [Int.compare_eq_gt.2 hz]
    exact denotes_pack_round .positive (by omega) hf hwhole

/-- What is not too large is found again in the bits of a double. -/
theorem Denotes.pack {u : UnpackedFloat} {q : ℚ} (h : Denotes u q) (hwhole : IsWholeDouble q) :
    Denotes (Float.Model.pack u).unpack q := by
  cases h with
  | zero s =>
    rw [unpack_pack_zero]
    exact .zero s
  | finite s hpos hdigits he hnormal =>
    obtain ⟨n, f, hn, hf, hvalue⟩ := hwhole.of_signed
    have hlow := hwhole.exponent_pos hpos hdigits
    have hm := hnormal.resolve_right (by omega)
    have hhigh := add_exponent_lt hm hn hvalue
    rw [unpack_pack_normal s hpos hm hdigits he, if_pos (by omega)]
    exact .finite s hpos hdigits he hnormal

/-! ## Operations -/

theorem decreaseExponent_value (m : ℕ) {e f : ℤ} (h : f ≤ e) :
    ((UnpackedFloat.decreaseExponent m e f).1 * 2 ^ f : ℚ) = m * 2 ^ e := by
  obtain ⟨i, rfl⟩ := Int.le.dest h
  rw [UnpackedFloat.decreaseExponent, add_sub_cancel_left, Int.toNat_natCast, Nat.shiftLeft_eq,
    zpow_add₀ two_ne_zero, zpow_natCast]
  push_cast
  ring

theorem denotes_pack_add {u v : UnpackedFloat} {p q : ℚ} (hu : Denotes u p) (hv : Denotes v q)
    (hwhole : IsWholeDouble (p + q)) :
    Denotes (Float.Model.pack (UnpackedFloat.add .binary64 u v)).unpack (p + q) := by
  cases hu with
  | zero s =>
    rw [zero_add] at hwhole ⊢
    cases hv with
    | zero t => cases s <;> cases t <;> exact (Denotes.zero _).pack hwhole
    | finite t hpos hdigits he hnormal =>
      exact (Denotes.finite t hpos hdigits he hnormal).pack hwhole
  | @finite s m e hm hdigits he hnormal =>
    cases hv with
    | zero t =>
      rw [add_zero] at hwhole ⊢
      exact (Denotes.finite s hm hdigits he hnormal).pack hwhole
    | @finite t n f hn _ hf _ =>
      -- Both numbers are written with the smaller one of the exponents.
      have hsum : (signed s (m * 2 ^ e) + signed t (n * 2 ^ f) : ℚ) =
          (s.apply (UnpackedFloat.decreaseExponent m e (min e f)).1 +
            t.apply (UnpackedFloat.decreaseExponent n f (min e f)).1 : ℤ) * 2 ^ min e f := by
        rw [← decreaseExponent_value m (min_le_left e f),
          ← decreaseExponent_value n (min_le_right e f), signed_mul_right, signed_mul_right,
          ← add_mul, Int.cast_add, cast_apply, cast_apply]
        rfl
      rw [hsum] at hwhole ⊢
      exact denotes_pack_normalize _ (le_min he hf) .positive hwhole

theorem apply_neg (s : Sign) (z : ℤ) : (-s).apply z = -s.apply z := by
  cases s
  · exact (neg_neg z).symm
  · rfl

/-- A difference is computed as the sum with what is subtracted negated. -/
theorem unpacked_sub_eq (u v : UnpackedFloat) :
    UnpackedFloat.sub .binary64 u v = UnpackedFloat.add .binary64 u v.neg := by
  cases u <;> cases v <;>
    grind [UnpackedFloat.sub, UnpackedFloat.add, UnpackedFloat.neg, apply_neg]

theorem denotes_pack_mul {u v : UnpackedFloat} {p q : ℚ} (hu : Denotes u p) (hv : Denotes v q)
    (hwhole : IsWholeDouble (p * q)) :
    Denotes (Float.Model.pack (UnpackedFloat.mul .binary64 u v)).unpack (p * q) := by
  cases hu with
  | zero s =>
    rw [zero_mul] at hwhole ⊢
    cases hv <;> exact (Denotes.zero _).pack hwhole
  | @finite s m e hm hdigits he hnormal =>
    cases hv with
    | zero t =>
      rw [mul_zero] at hwhole ⊢
      exact (Denotes.zero _).pack hwhole
    | @finite t n f hn hdigits' hf hnormal' =>
      have hproduct : signed s (m * 2 ^ e) * signed t (n * 2 ^ f) =
          signed (s * t) ((m * n : ℕ) * 2 ^ (e + f)) := by
        rw [← signed_mul, zpow_add₀ two_ne_zero, Nat.cast_mul, mul_mul_mul_comm]
      rw [hproduct] at hwhole ⊢
      have hsmall : m * n < 2 ^ 106 := by
        calc m * n < 2 ^ 53 * 2 ^ 53 := Nat.mul_lt_mul'' hdigits hdigits'
          _ = 2 ^ 106 := by rw [← pow_add]
      have hexponent := hwhole.exponent_pos (Nat.mul_pos hm hn) hsmall
      have hlarge : 2 ^ 52 ≤ m * n := by
        rcases hnormal with hm' | rfl
        · exact hm'.trans (Nat.le_mul_of_pos_right m hn)
        · exact (hnormal'.resolve_right (by omega)).trans (Nat.le_mul_of_pos_left n hm)
      exact denotes_pack_roundWithAccuracy (s * t) hlarge (by omega) hwhole

/-- A quotient that is a whole number is found in the digits that are computed of it. -/
theorem divCore_eq {m n k g : ℕ} {e f : ℤ} (hn : 0 < n) (hm : m < 2 ^ 53) (hpos : 0 < k)
    (hk : k < 2 ^ 53) (h : (m * 2 ^ e : ℚ) = (n * k : ℕ) * 2 ^ (f + g)) :
    ∃ d t, UnpackedFloat.divCore .binary64 m e n f = (d, t, .exact) ∧ 2 ^ 52 ≤ d ∧ -1074 ≤ t ∧
      (d * 2 ^ t : ℚ) = k * 2 ^ g := by
  have htarget : Format.binary64.targetExponent (totalExponent m e - totalExponent n f) =
    max (m.log2 + 1 + e - (n.log2 + 1 + f) - 53) (-1074) := rfl
  have hm₀ : 0 < m := pos_of_mul_two_zpow_eq (Nat.mul_pos hn hpos) h.symm
  have hself : 2 ^ n.log2 ≤ n := Nat.log2_self_le hn.ne'
  have hmlog : m.log2 < 53 := (Nat.log2_lt hm₀.ne').2 hm
  have hproduct : n * k < 2 ^ (n.log2 + 1 + 53) := by
    rw [pow_add _ _ 53]
    exact Nat.mul_lt_mul'' Nat.lt_log2_self hk
  have hlow := add_exponent_lt (hself.trans (Nat.le_mul_of_pos_right n hpos))
    (Nat.lt_log2_self (n := m)) h.symm
  have hhigh := add_exponent_lt (Nat.log2_self_le hm₀.ne') hproduct h
  push_cast at hlow hhigh
  -- The dividend gets `i` zeros behind it, and then the quotient is followed by `j` zeros.
  obtain ⟨i, hi⟩ := Nat.exists_eq_add_of_le (by omega : m.log2 ≤ 53 + n.log2)
  obtain ⟨j, hj⟩ := Int.le.dest (by omega : e - f - i ≤ g)
  have hdividend : m * 2 ^ i = n * (k * 2 ^ j) := by
    rw [← mul_assoc]
    exact mul_two_pow_eq h (by omega)
  refine ⟨k * 2 ^ j, e - f - i, ?_, ?_, by omega, ?_⟩
  · have hexponent : min (e - f) (max ((m.log2 : ℤ) + 1 + e - (n.log2 + 1 + f) - 53) (-1074)) =
        e - f - i := by omega
    have hshift : (e - f - (e - f - i)).toNat = i := by omega
    rw [UnpackedFloat.divCore, htarget, hexponent]
    simp only [hshift, Nat.shiftLeft_eq, hdividend, Nat.mul_div_cancel_left _ hn,
      Nat.mul_mod_right]
    rfl
  · apply Nat.le_of_mul_le_mul_left _ hn
    calc n * 2 ^ 52 ≤ 2 ^ (n.log2 + 1) * 2 ^ 52 :=
          Nat.mul_le_mul_right _ Nat.lt_log2_self.le
      _ = 2 ^ m.log2 * 2 ^ i := by
          rw [← pow_add, ← pow_add]
          congr 1
          omega
      _ ≤ m * 2 ^ i := Nat.mul_le_mul_right _ (Nat.log2_self_le hm₀.ne')
      _ = n * (k * 2 ^ j) := hdividend
  · rw [Nat.cast_mul, Nat.cast_pow, Nat.cast_ofNat, mul_assoc, ← zpow_natCast 2 j,
      ← zpow_natCast 2 g, ← zpow_add₀ two_ne_zero, add_comm, hj]

theorem denotes_pack_div {u v : UnpackedFloat} {p q : ℚ} (hu : Denotes u p) (hv : Denotes v q)
    (hq : q ≠ 0) (hwhole : IsWholeDouble (p / q)) :
    Denotes (Float.Model.pack (UnpackedFloat.div .binary64 u v)).unpack (p / q) := by
  cases hv with
  | zero t => exact absurd rfl hq
  | @finite t n f hn _ _ _ =>
    cases hu with
    | zero s =>
      rw [zero_div] at hwhole ⊢
      exact (Denotes.zero _).pack hwhole
    | @finite s m e hm hdigits _ _ =>
      rw [← signed_div] at hwhole ⊢
      obtain ⟨k, g, hk, -, hquotient⟩ := id hwhole
      rw [abs_signed, abs_of_nonneg (by positivity)] at hquotient
      have hvalue : (m * 2 ^ e : ℚ) = (n * k : ℕ) * 2 ^ (f + g) := by
        rw [(div_eq_iff (by positivity)).1 hquotient, zpow_add₀ two_ne_zero, zpow_natCast]
        push_cast
        ring
      have hpos : 0 < k := Nat.pos_of_mul_pos_left (pos_of_mul_two_zpow_eq hm hvalue)
      obtain ⟨d, x, hcore, hd, hx, hdx⟩ := divCore_eq hn hdigits hpos hk hvalue
      rw [hquotient, ← hdx] at hwhole ⊢
      rw [UnpackedFloat.div]
      simp only [hcore]
      exact denotes_pack_roundWithAccuracy (s / t) hd hx hwhole

/-! ## Exact results

Where the exact result is a whole double, the result is exact, also in a quotient.
-/

namespace StandsFor

variable {x y : Float} {p q : ℚ}

theorem add (hx : StandsFor x p) (hy : StandsFor y q) (hwhole : IsWholeDouble (p + q)) :
    StandsFor (x + y) (p + q) :=
  denotes_unpack_iff.1
    (denotes_pack_add (denotes_unpack_iff.2 hx) (denotes_unpack_iff.2 hy) hwhole)

theorem sub (hx : StandsFor x p) (hy : StandsFor y q) (hwhole : IsWholeDouble (p - q)) :
    StandsFor (x - y) (p - q) := by
  rw [sub_eq_add_neg] at hwhole ⊢
  have hsum := denotes_pack_add (denotes_unpack_iff.2 hx) (denotes_unpack_iff.2 hy).neg hwhole
  rw [← unpacked_sub_eq] at hsum
  exact denotes_unpack_iff.1 hsum

theorem mul (hx : StandsFor x p) (hy : StandsFor y q) (hwhole : IsWholeDouble (p * q)) :
    StandsFor (x * y) (p * q) :=
  denotes_unpack_iff.1
    (denotes_pack_mul (denotes_unpack_iff.2 hx) (denotes_unpack_iff.2 hy) hwhole)

theorem div (hx : StandsFor x p) (hy : StandsFor y q) (hq : q ≠ 0)
    (hwhole : IsWholeDouble (p / q)) : StandsFor (x / y) (p / q) :=
  denotes_unpack_iff.1
    (denotes_pack_div (denotes_unpack_iff.2 hx) (denotes_unpack_iff.2 hy) hq hwhole)

end StandsFor

theorem Numeral.standsFor_toFloat (n : Numeral) (hwhole : IsWholeDouble n.value) :
    StandsFor n.toFloat n.value := by
  have hvalue : ((n.value : ℤ) * 2 ^ (0 : ℤ) : ℚ) = n.value := by
    rw [zpow_zero, mul_one, Int.cast_natCast]
  rw [← hvalue] at hwhole ⊢
  exact denotes_unpack_iff.1 (denotes_pack_normalize n.value (by omega) .positive hwhole)

end PocketCalculator
