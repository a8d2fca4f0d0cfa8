import Mathlib
import PocketCalculator.Expression.Evaluation

/-!
# The double of a numeral

A positive whole number is rounded to 53 binary digits, and what is rounded is packed into the bits
of a double, or into those of infinity where the exponent does not fit. On the way no positive
number becomes zero. Main statements: `unpack_pack_normal`, that packing loses nothing but exponents
that are too large, and `toFloat_beq_zero_iff`, that a numeral is converted to zero only if it
writes zero.

## Main definitions

* `leadingDigits` — the first 53 binary digits of a number, with what is needed to round them.
* `roundedValue` — the number that is left of a longer one.
-/

namespace PocketCalculator

open Float.Model (UnpackedFloat Format totalExponent)
open Float.Model.UnpackedFloat (Sign ExtendedMantissa)

/-! ## Rounding -/

theorem mantissa_shiftRight (em : ExtendedMantissa) (k : Nat) :
    (em >>> k).mantissa = em.mantissa / 2 ^ k := by
  induction k with
  | zero => simp [HShiftRight.hShiftRight, Nat.repeat]
  | succ k ih =>
    show (em >>> k).mantissa / 2 = _
    rw [ih, Nat.div_div_eq_div_mul, pow_succ]

/-- The bits that are kept of what fell out of a mantissa: the last one, and whether one before it
was set. -/
theorem bits_shiftRight_succ (m k : Nat) :
    ((⟨m, false, false⟩ : ExtendedMantissa) >>> (k + 1)).roundBit = (m / 2 ^ k % 2 != 0) ∧
      ((⟨m, false, false⟩ : ExtendedMantissa) >>> (k + 1)).stickyBit = (m % 2 ^ k != 0) := by
  induction k with
  | zero =>
    constructor <;>
      simp [HShiftRight.hShiftRight, Nat.repeat, ExtendedMantissa.shiftRightOne, Nat.mod_one]
  | succ k ih =>
    obtain ⟨hround, hsticky⟩ := ih
    constructor
    · show (((⟨m, false, false⟩ : ExtendedMantissa) >>> (k + 1)).mantissa % 2 != 0) = _
      rw [mantissa_shiftRight]
    · have hrest : m % 2 ^ (k + 1) = 0 ↔ m / 2 ^ k % 2 = 0 ∧ m % 2 ^ k = 0 := by
        rw [Nat.mod_pow_succ, Nat.add_eq_zero_iff, Nat.mul_eq_zero, and_comm]
        simp
      show (((⟨m, false, false⟩ : ExtendedMantissa) >>> (k + 1)).roundBit ||
        ((⟨m, false, false⟩ : ExtendedMantissa) >>> (k + 1)).stickyBit) = _
      rw [hround, hsticky, Bool.eq_iff_iff, Bool.or_eq_true, bne_iff_ne, bne_iff_ne, bne_iff_ne,
        ne_eq, ne_eq, ne_eq, hrest, not_and_or]

/-- The bits that are kept are enough to round half to even. -/
theorem roundedMantissa_shiftRight (m k : Nat) :
    ((⟨m, false, false⟩ : ExtendedMantissa) >>> k).roundedMantissa = roundDiv m (2 ^ k) := by
  cases k with
  | zero => exact (roundDiv_one m).symm
  | succ k =>
    obtain ⟨hround, hsticky⟩ := bits_shiftRight_succ m k
    have hmantissa := mantissa_shiftRight ⟨m, false, false⟩ (k + 1)
    generalize (⟨m, false, false⟩ : ExtendedMantissa) >>> (k + 1) = em at hround hsticky hmantissa
    obtain ⟨q, round, sticky⟩ := em
    have hrest : m % 2 ^ (k + 1) = m % 2 ^ k + 2 ^ k * (m / 2 ^ k % 2) := Nat.mod_pow_succ
    have hsmall : m % 2 ^ k < 2 ^ k := Nat.mod_lt _ (Nat.two_pow_pos k)
    have hdouble : 2 ^ (k + 1) = 2 * 2 ^ k := by rw [pow_succ, mul_comm]
    simp only at hround hsticky hmantissa
    rw [roundDiv, ← hmantissa, hrest, hdouble]
    rcases Nat.mod_two_eq_zero_or_one (m / 2 ^ k) with hbit | hbit
    · rw [hbit] at hround ⊢
      rw [if_pos (by omega), hround]
      cases sticky <;> rfl
    · rw [hbit] at hround ⊢
      rw [if_neg (by omega), hround, hsticky]
      by_cases hzero : m % 2 ^ k = 0
      · rw [hzero, if_neg (by omega)]
        rfl
      · rw [if_pos (by omega), bne_iff_ne.2 hzero]
        rfl

/-- The first 53 binary digits of a number, with what is needed to round them. -/
def leadingDigits (m : Nat) : ExtendedMantissa :=
  (⟨m, false, false⟩ : ExtendedMantissa) >>> (m.log2 - 52)

theorem mantissa_leadingDigits (m : Nat) :
    (leadingDigits m).mantissa = m / 2 ^ (m.log2 - 52) :=
  mantissa_shiftRight _ _

theorem mantissa_leadingDigits_bounds {m : Nat} (h : 2 ^ 52 ≤ m) :
    2 ^ 52 ≤ (leadingDigits m).mantissa ∧ (leadingDigits m).mantissa < 2 ^ 53 := by
  have hne : m ≠ 0 := by omega
  have hlog : 52 ≤ m.log2 := (Nat.le_log2 hne).2 h
  have hlow : 2 ^ 52 * 2 ^ (m.log2 - 52) = 2 ^ m.log2 := by
    rw [← pow_add, Nat.add_sub_cancel' hlog]
  have hhigh : 2 ^ 53 * 2 ^ (m.log2 - 52) = 2 ^ (m.log2 + 1) := by
    rw [← pow_add]
    congr 1
    omega
  rw [mantissa_leadingDigits]
  constructor
  · rw [Nat.le_div_iff_mul_le (Nat.two_pow_pos _), hlow]
    exact Nat.log2_self_le hne
  · rw [Nat.div_lt_iff_lt_mul (Nat.two_pow_pos _), hhigh]
    exact Nat.lt_log2_self

theorem roundedMantissa_leadingDigits (m : Nat) :
    (leadingDigits m).roundedMantissa = roundDiv m (2 ^ (m.log2 - 52)) :=
  roundedMantissa_shiftRight _ _

theorem roundedMantissa_leadingDigits_bounds {m : Nat} (h : 2 ^ 52 ≤ m) :
    2 ^ 52 ≤ (leadingDigits m).roundedMantissa ∧ (leadingDigits m).roundedMantissa ≤ 2 ^ 53 := by
  obtain ⟨hlow, hhigh⟩ := mantissa_leadingDigits_bounds h
  rw [mantissa_leadingDigits] at hlow hhigh
  rw [roundedMantissa_leadingDigits]
  rcases roundDiv_cases m (2 ^ (m.log2 - 52)) with heq | heq <;> omega

/-- A number with 53 binary digits, or one more that was carried, is left as it is. -/
theorem mantissa_leadingDigits_mul {r : Nat} (hlow : 2 ^ 52 ≤ r) (hhigh : r ≤ 2 ^ 53) :
    (leadingDigits r).mantissa * 2 ^ (r.log2 - 52) = r := by
  rw [mantissa_leadingDigits]
  apply Nat.div_mul_cancel
  rcases Nat.lt_or_eq_of_le hhigh with hlt | rfl
  · have hlog : r.log2 = 52 := (Nat.log2_eq_iff (by omega)).2 ⟨hlow, hlt⟩
    rw [hlog]
    exact Nat.one_dvd r
  · decide +kernel

theorem targetExponent_eq (m : Nat) (e : Int) :
    Format.binary64.targetExponent (totalExponent m e) =
      max ((m.log2 : Int) + 1 + e - 53) (-1074) := rfl

theorem shiftToTargetExponent_eq {m : Nat} {e : Int} (hm : 2 ^ 52 ≤ m) (he : -1074 ≤ e) :
    UnpackedFloat.shiftToTargetExponent .binary64 m e .exact =
      (leadingDigits m, e + (m.log2 - 52 : Nat)) := by
  have hlog : 52 ≤ m.log2 := (Nat.le_log2 (by omega)).2 hm
  have hshift : (max ((m.log2 : Int) + 1 + e - 53) (-1074) - e).toNat = m.log2 - 52 := by omega
  rw [UnpackedFloat.shiftToTargetExponent, targetExponent_eq]
  simp only [UnpackedFloat.shiftToExponent, hshift]
  rfl

/-- The number with 53 binary digits that a longer one is rounded to, half to even. -/
def roundedValue (m : Nat) (e : Int) : Rat :=
  roundDiv m (2 ^ (m.log2 - 52)) * 2 ^ (e + (m.log2 - 52 : Nat))

/-- A number with 53 binary digits or more keeps 53 of them when it is rounded. -/
theorem roundWithAccuracy_normal (s : Sign) {m : Nat} {e : Int} (hm : 2 ^ 52 ≤ m)
    (he : -1074 ≤ e) :
    ∃ m' e' h, UnpackedFloat.roundWithAccuracy .binary64 s m e .exact = .finite s m' e' h ∧
      2 ^ 52 ≤ m' ∧ m' < 2 ^ 53 ∧ e ≤ e' ∧ (m' * 2 ^ e' : Rat) = roundedValue m e := by
  -- Rounding up can make one digit too many, which the second shift takes away.
  obtain ⟨hrlow, hrhigh⟩ := roundedMantissa_leadingDigits_bounds hm
  obtain ⟨hlow, hhigh⟩ := mantissa_leadingDigits_bounds hrlow
  have hcarry := mantissa_leadingDigits_mul hrlow hrhigh
  have hfirst := shiftToTargetExponent_eq hm he
  have hsecond := shiftToTargetExponent_eq (e := e + (m.log2 - 52 : Nat)) hrlow (by omega)
  refine ⟨_, e + (m.log2 - 52 : Nat) + ((leadingDigits m).roundedMantissa.log2 - 52 : Nat),
    (by omega : 0 < (leadingDigits (leadingDigits m).roundedMantissa).mantissa), ?_, hlow, hhigh,
    by omega, ?_⟩
  · simp only [UnpackedFloat.roundWithAccuracy, hfirst, hsecond]
    exact dif_neg (by omega)
  · rw [roundedValue, ← roundedMantissa_leadingDigits]
    conv_rhs => rw [← hcarry]
    rw [zpow_add₀ two_ne_zero _ (((leadingDigits m).roundedMantissa.log2 - 52 : Nat) : Int),
      zpow_natCast]
    push_cast
    ring

/-- A number gets zeros behind it, without a change of its value, until it has 53 binary digits. -/
theorem decreaseExponent_normal {k : Nat} {f : Int} (hk : 0 < k) (hf : -1074 ≤ f)
    (hnormal : -1022 ≤ k.log2 + f) :
    ∃ m e, UnpackedFloat.decreaseExponent k f
        (Format.binary64.targetExponent (totalExponent k f)) = (m, e) ∧ 2 ^ 52 ≤ m ∧
      -1074 ≤ e ∧ (m * 2 ^ e : Rat) = k * 2 ^ f := by
  have hlow : 2 ^ k.log2 ≤ k := Nat.log2_self_le (Nat.ne_of_gt hk)
  rw [targetExponent_eq]
  refine ⟨_, _, rfl, ?_, by omega, ?_⟩
  · rw [Nat.shiftLeft_eq]
    by_cases hlog : 52 ≤ k.log2
    · calc 2 ^ 52 ≤ 2 ^ k.log2 := Nat.pow_le_pow_right (by decide) hlog
        _ ≤ k := hlow
        _ ≤ _ := Nat.le_mul_of_pos_right _ (Nat.two_pow_pos _)
    · have hshift : (f - max ((k.log2 : Int) + 1 + f - 53) (-1074)).toNat = 52 - k.log2 := by omega
      rw [hshift]
      calc 2 ^ 52 = 2 ^ k.log2 * 2 ^ (52 - k.log2) := by
            rw [← pow_add, Nat.add_sub_cancel' (by omega)]
        _ ≤ k * 2 ^ (52 - k.log2) := Nat.mul_le_mul_right _ hlow
  · rw [Nat.shiftLeft_eq, Nat.cast_mul, Nat.cast_pow, Nat.cast_ofNat, ← zpow_natCast, mul_assoc,
      ← zpow_add₀ two_ne_zero, add_sub_cancel]

/-- Rounding keeps 53 binary digits of a number that is not too small. -/
theorem round_normal (s : Sign) {k : Nat} {f : Int} (hk : 0 < k) (hf : -1074 ≤ f)
    (hnormal : -1022 ≤ k.log2 + f) :
    ∃ m' e' h, UnpackedFloat.round .binary64 s k f = .finite s m' e' h ∧
      2 ^ 52 ≤ m' ∧ m' < 2 ^ 53 ∧ -1074 ≤ e' := by
  obtain ⟨m, e, hdigits, hm, he, -⟩ := decreaseExponent_normal hk hf hnormal
  obtain ⟨m', e', h, hfinite, hlow, hhigh, he', -⟩ := roundWithAccuracy_normal s hm he
  refine ⟨m', e', h, ?_, hlow, hhigh, by omega⟩
  rw [UnpackedFloat.round]
  simp only [hdigits]
  exact hfinite

theorem ofNat_eq_round {k : Nat} (hk : 0 < k) :
    UnpackedFloat.ofNat .binary64 k = UnpackedFloat.round .binary64 .positive k 0 := by
  have hcompare : compare (k : Int) 0 = .gt := Int.compare_eq_gt.2 (by omega)
  rw [UnpackedFloat.ofNat, UnpackedFloat.ofInt, UnpackedFloat.normalize, hcompare]
  rfl

/-! ## Packing -/

theorem unpack_packedInfinity (s : Sign) :
    UnpackedFloat.unpack .binary64 (UnpackedFloat.packedInfinity .binary64 s) = .infinity s := by
  cases s <;> rfl

/-- The first binary digit of a mantissa is not packed, since it is known. -/
theorem toNat_one_append {m : Nat} (hlow : 2 ^ 52 ≤ m) (hhigh : m < 2 ^ 53) :
    (1#1 ++ BitVec.ofNat 52 m).toNat = m := by
  rw [BitVec.toNat_append, BitVec.toNat_ofNat, ← Nat.shiftLeft_add_eq_or_of_lt (by omega)]
  simp only [BitVec.toNat_ofNat, Nat.shiftLeft_eq]
  omega

theorem toNat_biasedExponent {e : Int} (hfits : e ≤ 971) :
    (BitVec.ofNat 11 (e + 1023 + 52).toNat).toNat = (e + 1023 + 52).toNat := by
  rw [BitVec.toNat_ofNat, Nat.mod_eq_of_lt (by omega)]

/-- What has 53 binary digits is found again in the bits of a double, unless its exponent is too
large. -/
theorem unpack_pack_normal (s : Sign) {m : Nat} {e : Int} (h : 0 < m) (hlow : 2 ^ 52 ≤ m)
    (hhigh : m < 2 ^ 53) (he : -1074 ≤ e) :
    (Float.Model.pack (.finite s m e h)).unpack =
      if e ≤ 971 then .finite s m e h else .infinity s := by
  have hlog : m.log2 + 1 = 53 := by
    rw [(Nat.log2_eq_iff (Nat.ne_of_gt h)).2 ⟨hlow, hhigh⟩]
  have hpack : UnpackedFloat.pack .binary64 (.finite s m e h) =
      if 2 ^ 11 ≤ (e + 1023 + 52).toNat + 1 then UnpackedFloat.packedInfinity .binary64 s
      else if m.log2 + 1 = 53 then
        UnpackedFloat.packComponents .binary64 s (BitVec.ofNat 11 (e + 1023 + 52).toNat)
          (BitVec.ofNat 52 m)
      else UnpackedFloat.packComponents .binary64 s 0#11 (BitVec.ofNat 52 m) := rfl
  show UnpackedFloat.unpack .binary64 (UnpackedFloat.pack .binary64 (.finite s m e h)) = _
  rw [hpack, if_pos hlog]
  by_cases hfits : e ≤ 971
  · have hexponent := toNat_biasedExponent hfits
    have hones : BitVec.ofNat 11 (e + 1023 + 52).toNat ≠ -1#11 := by
      intro heq
      have hmax : (-1#11 : BitVec 11).toNat = 2047 := by decide
      rw [heq, hmax] at hexponent
      omega
    have hzeros : BitVec.ofNat 11 (e + 1023 + 52).toNat ≠ 0#11 := by
      intro heq
      have hmin : (0#11 : BitVec 11).toNat = 0 := rfl
      rw [heq, hmin] at hexponent
      omega
    rw [if_neg (by omega), if_pos hfits, UnpackedFloat.unpack]
    simp only [UnpackedFloat.unpackExponent_packComponents,
      UnpackedFloat.unpackMantissa_packComponents, UnpackedFloat.unpackSign_packComponents,
      Sign.ofBitVec_toBitVec]
    rw [if_neg hones, if_neg hzeros]
    congr 1
    · exact toNat_one_append hlow hhigh
    · rw [hexponent]
      show ((e + 1023 + 52).toNat : Int) - (1023 + 52) = e
      omega
  · rw [if_pos (by omega), if_neg hfits, unpack_packedInfinity]

/-! ## Zero -/

/-- A positive number becomes a positive double or infinity. -/
theorem unpack_ofNat_cases {k : Nat} (hk : 0 < k) :
    (Float.Model.ofNat k).unpack = .infinity .positive ∨
      ∃ m e h, (Float.Model.ofNat k).unpack = .finite .positive m e h := by
  obtain ⟨m, e, h, hfinite, hlow, hhigh, he⟩ :=
    round_normal .positive hk (f := 0) (by omega) (by omega)
  rw [Float.Model.ofNat, ofNat_eq_round hk, hfinite, unpack_pack_normal .positive h hlow hhigh he]
  split
  · exact .inr ⟨m, e, h, rfl⟩
  · exact .inl rfl

theorem Numeral.toFloat_beq_zero_iff (n : Numeral) : (n.toFloat == 0) = true ↔ n.value = 0 := by
  have hbeq : (n.toFloat == 0) =
      ((Float.Model.ofNat n.value).unpack.compare (Float.toModel 0).unpack == some .eq) := rfl
  have hzero : (Float.toModel 0).unpack = .zero .positive := by rfl
  rw [hbeq, hzero]
  rcases Nat.eq_zero_or_pos n.value with hn | hn
  · rw [hn]
    exact iff_of_true (by decide) rfl
  · refine iff_of_false ?_ (Nat.ne_of_gt hn)
    rcases unpack_ofNat_cases hn with hinfinity | ⟨m, e, h, hfinite⟩
    · rw [hinfinity]
      exact Bool.false_ne_true
    · rw [hfinite]
      exact Bool.false_ne_true

end PocketCalculator
