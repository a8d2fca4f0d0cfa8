import PocketCalculator.Proofs.Overflow
import PocketCalculator.Proofs.TokenRows

/-!
# A numeral on its own

A text that is a single numeral has the nearest double as its value, a half going to the even
significand, and no value from half a unit above the largest double on. What is shown for it is the
numeral itself, without zeros in front, exactly if its number is a double. Main statement:
`compute_numeral`.

## Main definitions

* `IsRoundedDouble` — the double that a number is rounded to.
-/

namespace PocketCalculator

open Float.Model (UnpackedFloat)
open Float.Model.UnpackedFloat (Sign)

/-! ## The doubles among the whole numbers -/

/-- A double is a multiple of a power of two, or it has too few digits in front of that power. -/
theorem multiple_or_abs_lt {x : Float} (h : x.isFinite = true) (j : ℕ) :
    (∃ i : ℤ, exactValue x = i * 2 ^ j) ∨ |exactValue x| < 2 ^ 52 * 2 ^ j := by
  have hx : Denotes x.toModel.unpack (exactValue x) := denotes_unpack_iff.2 ⟨h, rfl⟩
  generalize x.toModel.unpack = u, exactValue x = q at hx
  cases hx with
  | zero s => exact .inl ⟨0, by simp⟩
  | @finite s m e hpos hdigits _ _ =>
    rcases le_or_gt (j : ℤ) e with hle | hlt
    · obtain ⟨t, rfl⟩ := Int.le.dest hle
      refine .inl ⟨s.apply (m * 2 ^ t : ℕ), ?_⟩
      rw [cast_apply, zpow_add₀ two_ne_zero, zpow_natCast, zpow_natCast, ← signed_mul_right]
      push_cast
      ring_nf
    · right
      rw [abs_signed, abs_of_nonneg (by positivity)]
      calc (m * 2 ^ e : ℚ) < 2 ^ 53 * 2 ^ e :=
            mul_lt_mul_of_pos_right (by exact_mod_cast hdigits) (by positivity)
        _ ≤ 2 ^ 53 * 2 ^ ((j : ℤ) - 1) :=
            mul_le_mul_of_nonneg_left (zpow_le_zpow_right₀ one_le_two (by omega)) (by positivity)
        _ = 2 ^ 52 * 2 ^ j := by
            rw [zpow_sub_one₀ two_ne_zero, zpow_natCast]
            ring

/-- The largest double lies half a unit below the numbers that are too large. -/
theorem abs_exactValue_lt (x : Float) : |exactValue x| < 2 ^ 1024 - 2 ^ 970 := by
  have hunit : (0 : ℚ) < 2 ^ 970 := by positivity
  have hthreshold : (2 : ℚ) ^ 1024 = 2 ^ 54 * 2 ^ 970 := by rw [← pow_add]
  have htop : (2 : ℚ) ^ (971 : ℤ) = 2 * 2 ^ 970 := by rw [← pow_succ']; rfl
  rw [hthreshold, exactValue]
  split
  · next s m e hm hu =>
    obtain ⟨hdigits, -, -, he⟩ := bounds_of_unpack hu
    have hm1 : (m : ℚ) ≤ 2 ^ 53 - 1 := by
      rw [le_sub_iff_add_le]
      exact_mod_cast hdigits
    rw [abs_signed, abs_of_nonneg (by positivity)]
    calc (m * 2 ^ e : ℚ) ≤ (2 ^ 53 - 1) * 2 ^ (971 : ℤ) :=
          mul_le_mul hm1 (zpow_le_zpow_right₀ one_le_two he) (by positivity) (by norm_num)
      _ = (2 ^ 53 - 1) * (2 * 2 ^ 970) := by rw [htop]
      _ < 2 ^ 54 * 2 ^ 970 - 2 ^ 970 := by
          generalize (2 : ℚ) ^ 970 = unit at hunit
          linarith
  · rw [abs_zero]
    generalize (2 : ℚ) ^ 970 = unit at hunit
    linarith

/-! ## Rounding -/

/-- The significand of a double ends in a zero. -/
def HasEvenSignificand (x : Float) : Prop :=
  match x.toModel.unpack with
  | .finite _ m _ _ => Even m
  | _ => True

/-- The double that `r` is rounded to: no finite double is nearer to `r`, and if another one is as
near, the significand is even. -/
structure IsRoundedDouble (v : Float) (r : ℚ) : Prop where
  nearest : IsNearestDouble v r
  even : ∀ u : Float, u.isFinite = true → exactValue u ≠ exactValue v →
    |exactValue u - r| = |exactValue v - r| → HasEvenSignificand v

/-- A number that is a double is rounded to itself. -/
theorem StandsFor.isRoundedDouble {v : Float} {r : ℚ} (h : StandsFor v r) :
    IsRoundedDouble v r := by
  obtain ⟨hfinite, rfl⟩ := h
  constructor
  · refine ⟨hfinite, ?_⟩
    rintro ⟨u, -, hcloser⟩
    rw [sub_self, abs_zero] at hcloser
    exact absurd hcloser (not_lt.2 (abs_nonneg _))
  · intro u _ hne htie
    rw [sub_self, abs_zero, abs_eq_zero, sub_eq_zero] at htie
    exact absurd htie hne

/-- A number that is a double is rounded to that double only. -/
theorem IsRoundedDouble.standsFor {u v : Float} {r : ℚ} (h : IsRoundedDouble v r)
    (hu : StandsFor u r) : StandsFor v r := by
  obtain ⟨hfinite, hbest⟩ := h.nearest
  obtain ⟨hu, rfl⟩ := hu
  have hle := not_lt.1 fun hlt => hbest ⟨u, hu, hlt⟩
  rw [sub_self, abs_zero, abs_nonpos_iff, sub_eq_zero] at hle
  exact ⟨hfinite, hle⟩

/-- A double is the rounded one if every other double is farther away, or as far with an even
significand here. -/
theorem isRoundedDouble_of_forall {v : Float} {r : ℚ} (hfinite : v.isFinite = true)
    (h : ∀ u : Float, u.isFinite = true → exactValue u ≠ exactValue v →
      |exactValue v - r| < |exactValue u - r| ∨
        |exactValue v - r| = |exactValue u - r| ∧ HasEvenSignificand v) :
    IsRoundedDouble v r := by
  refine ⟨⟨hfinite, ?_⟩, ?_⟩
  · rintro ⟨u, hu, hcloser⟩
    have hne : exactValue u ≠ exactValue v := fun heq => by
      rw [heq] at hcloser
      exact lt_irrefl _ hcloser
    rcases h u hu hne with hlt | ⟨heq, -⟩ <;> linarith
  · intro u hu hne htie
    rcases h u hu hne with hlt | ⟨-, heven⟩
    · exact absurd htie.symm hlt.ne
    · exact heven

/-- The nearest multiple of a power of two is nearer than any other double: what is no multiple has
too few digits. -/
theorem abs_sub_lt_or_tie {k j : ℕ} (hk : 2 ^ 52 * 2 ^ j ≤ k) {u : Float}
    (hu : u.isFinite = true) (hne : exactValue u ≠ roundDiv k (2 ^ j) * 2 ^ j) :
    |(roundDiv k (2 ^ j) * 2 ^ j : ℚ) - k| < |exactValue u - k| ∨
      |(roundDiv k (2 ^ j) * 2 ^ j : ℚ) - k| = |exactValue u - k| ∧ Even (roundDiv k (2 ^ j)) := by
  have hunit : (0 : ℚ) < 2 ^ j := by positivity
  have hscale (y : ℚ) : |y * 2 ^ j - k| = |k / 2 ^ j - y| * 2 ^ j := by
    rw [abs_sub_comm, ← abs_of_pos hunit, ← abs_mul, abs_of_pos hunit, sub_mul,
      div_mul_cancel₀ _ hunit.ne']
  have hgrid : (2 : ℚ) ^ 52 ≤ k / 2 ^ j := by
    rw [le_div_iff₀ hunit]
    exact_mod_cast hk
  have hnearest := (isNearest_iff (k / 2 ^ j) (roundDiv k (2 ^ j) : ℤ)).2 (by
    simpa using roundDiv_nearest k (Nat.two_pow_pos j))
  generalize roundDiv k (2 ^ j) = r at *
  obtain ⟨y, hy⟩ : ∃ y, exactValue u = y * 2 ^ j := ⟨_, (div_mul_cancel₀ _ hunit.ne').symm⟩
  rw [hy] at hne ⊢
  rw [hscale, hscale, mul_lt_mul_iff_left₀ hunit, mul_left_inj' hunit.ne']
  have hyr : y ≠ r := fun heq => hne (by rw [heq])
  rcases multiple_or_abs_lt hu j with ⟨i, hi⟩ | hlt
  · rw [hy, mul_left_inj' hunit.ne'] at hi
    subst hi
    have hi : i ≠ r := by exact_mod_cast hyr
    exact_mod_cast hnearest i hi
  · rw [hy, abs_mul, abs_of_pos hunit, mul_lt_mul_iff_left₀ hunit] at hlt
    have hbelow : y < 2 ^ 52 := lt_of_abs_lt hlt
    left
    -- The multiple with the fewest digits is no nearer than `r`, but nearer than `y`.
    have hle : |(k / 2 ^ j : ℚ) - r| ≤ k / 2 ^ j - 2 ^ 52 := by
      rw [← abs_of_nonneg (sub_nonneg.2 hgrid)]
      rcases eq_or_ne (2 ^ 52 : ℤ) r with hr | hr
      · have hr : (2 : ℚ) ^ 52 = r := by exact_mod_cast hr
        rw [hr]
      · have hr := (hnearest _ hr).elim le_of_lt fun heq => heq.1.le
        exact_mod_cast hr
    calc |(k / 2 ^ j : ℚ) - r| ≤ k / 2 ^ j - 2 ^ 52 := hle
      _ < k / 2 ^ j - y := by linarith
      _ ≤ |k / 2 ^ j - y| := le_abs_self _

/-! ## The double of a numeral -/

/-- Where the digits in front of a power of two are rounded, an even number of units has an even
significand. -/
theorem exists_unpack_ofNat_even {k : ℕ} (hk : 2 ^ 52 ≤ k)
    (hfinite : (Float.Model.ofNat k).unpack.isFinite = true) :
    ∃ m e h, (Float.Model.ofNat k).unpack = .finite .positive m e h ∧
      (m * 2 ^ e : ℚ) = roundDiv k (2 ^ (k.log2 - 52)) * 2 ^ (k.log2 - 52) ∧
      (Even (roundDiv k (2 ^ (k.log2 - 52))) → Even m) := by
  obtain ⟨m, e, h, hunpack, hlow, hhigh, hvalue⟩ := exists_unpack_ofNat hk
  obtain ⟨hrlow, hrhigh⟩ := roundedMantissa_leadingDigits_bounds hk
  rw [roundedMantissa_leadingDigits] at hrlow hrhigh
  rw [roundedValue, zero_add] at hvalue
  have hfits : e ≤ 971 := by
    by_contra hlarge
    rw [hunpack, if_neg hlarge] at hfinite
    cases hfinite
  refine ⟨m, e, h, hunpack.trans (if_pos hfits), by rw [hvalue, zpow_natCast], fun heven => ?_⟩
  generalize roundDiv k (2 ^ (k.log2 - 52)) = r at *
  generalize k.log2 - 52 = j at *
  -- The two exponents are the same, unless rounding has carried to one digit more.
  rcases lt_or_eq_of_le hrhigh with hlt | rfl
  · have habove := add_exponent_lt hlow hlt hvalue
    have hbelow := add_exponent_lt hrlow hhigh hvalue.symm
    have hsame : m * 2 ^ 0 = r * 2 ^ 0 := mul_two_pow_eq hvalue (by push_cast at *; omega)
    rw [pow_zero, mul_one, mul_one] at hsame
    rwa [hsame]
  · have habove := add_exponent_lt hlow (by omega : 2 ^ 53 < 2 ^ 54) hvalue
    have hbelow := add_exponent_lt le_rfl hhigh hvalue.symm
    have hcarried : m * 2 ^ 1 = 2 ^ 53 * 2 ^ 0 :=
      mul_two_pow_eq hvalue (by push_cast at *; omega)
    exact ⟨2 ^ 51, by omega⟩

theorem two_pow_log2_le {k : ℕ} (hk : 2 ^ 52 ≤ k) : 2 ^ 52 * 2 ^ (k.log2 - 52) ≤ k := by
  have hne : k ≠ 0 := by omega
  rw [← pow_add, Nat.add_sub_cancel' ((Nat.le_log2 hne).2 hk)]
  exact Nat.log2_self_le hne

/-- The double of a large numeral is its number in units of the last binary digit, rounded. -/
theorem Numeral.exactValue_toFloat {n : Numeral} (hk : 2 ^ 52 ≤ n.value)
    (hfinite : n.toFloat.isFinite = true) :
    exactValue n.toFloat =
        roundDiv n.value (2 ^ (n.value.log2 - 52)) * 2 ^ (n.value.log2 - 52) ∧
      (Even (roundDiv n.value (2 ^ (n.value.log2 - 52))) → HasEvenSignificand n.toFloat) := by
  obtain ⟨m, e, hm, hunpack, hvalue, heven⟩ := exists_unpack_ofNat_even hk hfinite
  have hunpack : n.toFloat.toModel.unpack = .finite .positive m e hm := hunpack
  rw [exactValue, HasEvenSignificand, hunpack]
  exact ⟨hvalue, heven⟩

/-- A numeral that is not too large has the double that its number is rounded to, and this is a
whole number. -/
theorem Numeral.isRoundedDouble_toFloat (n : Numeral) (h : n.value < 2 ^ 1024 - 2 ^ 970) :
    IsRoundedDouble n.toFloat n.value ∧ ∃ w : ℕ, StandsFor n.toFloat w := by
  have hfinite : n.toFloat.isFinite = true := n.isFinite_toFloat_iff.2 h
  by_cases hk : n.value < 2 ^ 52
  · have hwhole : |(n.value : ℤ)| ≤ 2 ^ 53 := by
      rw [Nat.abs_cast]
      omega
    have hexact : StandsFor n.toFloat n.value :=
      n.standsFor_toFloat (by exact_mod_cast isWholeDouble_intCast hwhole)
    exact ⟨hexact.isRoundedDouble, n.value, hexact⟩
  · have hk : 2 ^ 52 ≤ n.value := not_lt.1 hk
    obtain ⟨hexact, heven⟩ := Numeral.exactValue_toFloat hk hfinite
    have hwhole : StandsFor n.toFloat
        (roundDiv n.value (2 ^ (n.value.log2 - 52)) * 2 ^ (n.value.log2 - 52) : ℕ) :=
      ⟨hfinite, by rw [hexact, Nat.cast_mul, Nat.cast_pow, Nat.cast_ofNat]⟩
    refine ⟨isRoundedDouble_of_forall hfinite fun u hu hne => ?_, _, hwhole⟩
    have hbest := abs_sub_lt_or_tie (two_pow_log2_le hk) hu (hexact ▸ hne)
    rw [← hexact] at hbest
    exact hbest.imp_right fun htie => ⟨htie.1, heven htie.2⟩

/-- A finite double is below the numbers that overflow. -/
theorem lt_of_standsFor {u : Float} {k : ℕ} (h : StandsFor u k) : k < 2 ^ 1024 - 2 ^ 970 := by
  have hlt := abs_exactValue_lt u
  rw [h.2, Nat.abs_cast, lt_sub_iff_add_lt] at hlt
  exact Nat.lt_sub_of_add_lt (by exact_mod_cast hlt)

/-! ## The text of a numeral -/

theorem displayText_of_standsFor {v : Float} {w : ℕ} (h : StandsFor v w) :
    displayText v = intText w := by
  refine numberText_of_isNearestMultiple h.1 ?_
  rw [h.2]
  exact_mod_cast isNearestMultiple_intCast displayPlaces w

/-- A label is no numeral. -/
theorem failureLabel_ne_text (text : String) (e : EvaluationError) (n : Numeral) :
    failureLabel text e ≠ n.text := by
  have hletter : 'E' ∈ (failureLabel text e).toList := by
    unfold failureLabel
    split <;> decide
  intro heq
  rw [heq] at hletter
  exact absurd (n.isDigit_of_mem_text _ hletter) (by decide)

/-! ## A numeral as an expression -/

theorem ofText_numeral (n : Numeral) : Expression.ofText n.text = .ok ⟨n, []⟩ := by
  have htext : joinTexts (Token.texts (Expression.tokens ⟨n, []⟩)) = n.text := by
    simp [joinTexts, Token.texts, Expression.tokens, Expression.pairTokens, Token.text]
  rw [← htext, Expression.ofText_joinTexts]

theorem compute_text (n : Numeral) :
    compute n.text = if n.toFloat.isFinite then .ok n.toFloat else .error (.notFinite n.toFloat) :=
  compute_of_sum (ofText_numeral n) rfl

theorem compute_text_of_lt {n : Numeral} (h : n.value < 2 ^ 1024 - 2 ^ 970) :
    compute n.text = .ok n.toFloat := by
  rw [compute_text, if_pos (n.isFinite_toFloat_iff.2 h)]

theorem compute_text_of_le {n : Numeral} (h : 2 ^ 1024 - 2 ^ 970 ≤ n.value) :
    compute n.text = .error (.notFinite n.toFloat) := by
  rw [compute_text, if_neg fun hfinite => not_lt.2 h (n.isFinite_toFloat_iff.1 hfinite)]

/-- A numeral, with whatever zeros in front, has the double as its value that its number is rounded
to, half to even, and overflows from half a unit above the largest double on. It is shown as it
stands, without the zeros in front, exactly if its number is a double. -/
theorem compute_numeral (n : Numeral) :
    (n.value < 2 ^ 1024 - 2 ^ 970 → ∃ v, compute n.text = .ok v ∧ IsRoundedDouble v n.value) ∧
    (2 ^ 1024 - 2 ^ 970 ≤ n.value → ∃ v, compute n.text = .error (.notFinite v)) ∧
    (evaluate n.text = stripLeadingZeros n.text ↔ ∃ u : Float, StandsFor u n.value) := by
  refine ⟨fun h => ⟨_, compute_text_of_lt h, (n.isRoundedDouble_toFloat h).1⟩,
    fun h => ⟨_, compute_text_of_le h⟩, ?_, ?_⟩
  · intro hshown
    rcases lt_or_ge n.value (2 ^ 1024 - 2 ^ 970) with h | h
    · obtain ⟨-, w, hw⟩ := n.isRoundedDouble_toFloat h
      rw [evaluate_of_ok (compute_text_of_lt h), displayText_of_standsFor hw,
        stripLeadingZeros_text] at hshown
      obtain rfl := natText_injective hshown
      exact ⟨_, hw⟩
    · rw [evaluate_of_error (compute_text_of_le h), ← n.text_strip] at hshown
      exact absurd hshown (failureLabel_ne_text _ _ _)
  · rintro ⟨u, hu⟩
    have h := lt_of_standsFor hu
    have hexact := (n.isRoundedDouble_toFloat h).1.standsFor hu
    rw [evaluate_of_ok (compute_text_of_lt h), displayText_of_standsFor hexact,
      stripLeadingZeros_text]

/-- Half-way between two doubles the even one is the value, and it is shown in place of the
numeral. -/
theorem compute_numeral_tie :
    let n : Numeral := ⟨[0, 0, 9, 0, 0, 7, 1, 9, 9, 2, 5, 4, 7, 4, 0, 9, 9, 3], by decide⟩
    n.text = "009007199254740993" ∧ n.value = 2 ^ 53 + 1 ∧
      (∃ v, compute n.text = .ok v ∧ IsRoundedDouble v n.value ∧ exactValue v = 2 ^ 53) ∧
      evaluate n.text ≠ stripLeadingZeros n.text ∧ ¬∃ u : Float, StandsFor u n.value := by
  intro n
  have hvalue : n.value = 2 ^ 53 + 1 := by decide
  have hsmall : n.value < 2 ^ 1024 - 2 ^ 970 := by
    rw [hvalue]
    decide +kernel
  obtain ⟨hrounded, -, hshown⟩ := compute_numeral n
  obtain ⟨v, hv, hnearest⟩ := hrounded hsmall
  obtain rfl : n.toFloat = v := Except.ok.inj ((compute_text_of_lt hsmall).symm.trans hv)
  have hexact : exactValue n.toFloat = 2 ^ 53 := by decide +kernel
  have htexts : evaluate n.text ≠ stripLeadingZeros n.text := by
    rw [evaluate_of_ok hv]
    decide +kernel
  exact ⟨by decide, hvalue, ⟨_, hv, hnearest, hexact⟩, htexts, fun hu => htexts (hshown.2 hu)⟩

end PocketCalculator
