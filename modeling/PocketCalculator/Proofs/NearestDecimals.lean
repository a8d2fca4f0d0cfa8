import PocketCalculator.Proofs.DecimalTexts

/-!
# Numbers rounded to decimal places

A double that is finite is shown by the canonical text of the nearest number with a given count of
places, a half going to the even multiple. What is shown can be read again: every double that is
nearest to the number on the display has the same text. Main statements: `numberText_canonical` and
`numberText_reread`.

## Main definitions

* `exactValue` — the number that a finite double stands for.
* `IsNearestMultiple` — rounding to decimal places, half to even.
* `IsNearestDouble` — a double that reading a number may give.
-/

namespace PocketCalculator

open Float.Model.UnpackedFloat (Sign)

/-! ## The value of a double -/

def signed : Sign → ℚ → ℚ
  | .positive, q => q
  | .negative, q => -q

/-- The number that a finite double stands for. What is not finite counts as zero. -/
def exactValue (x : Float) : ℚ :=
  match x.toModel.unpack with
  | .finite s m e _ => signed s (m * 2 ^ e)
  | _ => 0

/-! ## Nearest multiples -/

/-- Of all multiples of `10 ^ -places`, `y` is the one nearest to `x`, and an even one if another
is as near. -/
def IsNearestMultiple (places : ℕ) (x y : ℚ) : Prop :=
  ∃ k : ℤ, y = k / 10 ^ places ∧ ∀ j : ℤ, j ≠ k →
    |x - k / 10 ^ places| < |x - j / 10 ^ places| ∨
      |x - k / 10 ^ places| = |x - j / 10 ^ places| ∧ Even k

/-- Two whole numbers are a unit apart, so that no number is within half a unit of both. -/
theorem one_le_abs_add_abs_of_ne (z : ℚ) {k j : ℤ} (h : j ≠ k) : 1 ≤ |z - k| + |z - j| := by
  have hapart : 1 ≤ |j - k| := Int.one_le_abs (sub_ne_zero.2 h)
  have hdifference : ((j - k : ℤ) : ℚ) = z - k - (z - j) := by
    push_cast
    ring
  have htriangle := abs_sub (z - k) (z - j)
  rw [← hdifference, ← Int.cast_abs] at htriangle
  exact le_trans (by exact_mod_cast hapart) htriangle

/-- The whole number next to `k` on the side of `z` is what is left of a unit away from `z`. -/
theorem exists_neighbour (z : ℚ) (k : ℤ) : ∃ j : ℤ, j ≠ k ∧ |z - j| = |(|z - k| - 1)| := by
  rcases le_total 0 (z - k) with habove | hbelow
  · refine ⟨k + 1, by omega, ?_⟩
    rw [abs_of_nonneg habove]
    push_cast
    ring_nf
  · refine ⟨k - 1, by omega, ?_⟩
    rw [abs_of_nonpos hbelow, ← abs_neg]
    push_cast
    ring_nf

/-- Being nearest is being at most half a unit away, and exactly half a unit only for an even
number. -/
theorem isNearest_iff (z : ℚ) (k : ℤ) :
    (∀ j : ℤ, j ≠ k → |z - k| < |z - j| ∨ |z - k| = |z - j| ∧ Even k) ↔
      2 * |z - k| ≤ 1 ∧ (2 * |z - k| = 1 → Even k) := by
  constructor
  · intro h
    obtain ⟨j, hj, hneighbour⟩ := exists_neighbour z k
    have hnear := h j hj
    rw [hneighbour] at hnear
    constructor
    · have hle : |z - k| ≤ |(|z - k| - 1)| := hnear.elim le_of_lt fun heq => heq.1.le
      rcases abs_cases (|z - k| - 1) with ⟨habs, -⟩ | ⟨habs, -⟩ <;> linarith
    · intro htie
      have heq : |(|z - k| - 1)| = |z - k| := by
        rw [abs_of_nonpos (by linarith)]
        linarith
      rw [heq] at hnear
      exact hnear.elim (fun hlt => absurd hlt (lt_irrefl _)) And.right
  · rintro ⟨hhalf, heven⟩ j hj
    have hapart := one_le_abs_add_abs_of_ne z hj
    rcases lt_or_eq_of_le (by linarith : |z - k| ≤ |z - j|) with hlt | heq
    · exact .inl hlt
    · exact .inr ⟨heq, heven (by linarith)⟩

theorem abs_sub_div_pow (places : ℕ) (x : ℚ) (k : ℤ) :
    |x - k / 10 ^ places| = |x * 10 ^ places - k| / 10 ^ places := by
  have hunit : (0 : ℚ) < 10 ^ places := by positivity
  rw [← abs_of_pos hunit, ← abs_div, abs_of_pos hunit, sub_div, mul_div_cancel_right₀ _ hunit.ne']

theorem isNearestMultiple_iff (places : ℕ) (x y : ℚ) :
    IsNearestMultiple places x y ↔ ∃ k : ℤ, y = k / 10 ^ places ∧
      2 * |x * 10 ^ places - k| ≤ 1 ∧ (2 * |x * 10 ^ places - k| = 1 → Even k) := by
  have hunit : (0 : ℚ) < 10 ^ places := by positivity
  simp only [IsNearestMultiple, abs_sub_div_pow, div_lt_div_iff_of_pos_right hunit,
    div_left_inj' hunit.ne', isNearest_iff]

theorem IsNearestMultiple.unique {places : ℕ} {x y y' : ℚ} (h : IsNearestMultiple places x y)
    (h' : IsNearestMultiple places x y') : y = y' := by
  rw [isNearestMultiple_iff] at h h'
  obtain ⟨k, rfl, hk, heven⟩ := h
  obtain ⟨k', rfl, hk', heven'⟩ := h'
  by_contra hne
  have hkk' : k' ≠ k := by
    rintro rfl
    exact hne rfl
  -- Otherwise `x` lies half-way between two even multiples that are next to each other.
  have hapart := one_le_abs_add_abs_of_ne (x * 10 ^ places) hkk'
  obtain ⟨a, rfl⟩ := heven (by linarith)
  obtain ⟨b, rfl⟩ := heven' (by linarith)
  have hnear : |((a + a : ℤ) : ℚ) - (b + b : ℤ)| ≤ 1 := by
    calc _ ≤ |((a + a : ℤ) : ℚ) - x * 10 ^ places| + |x * 10 ^ places - (b + b : ℤ)| :=
          abs_sub_le _ _ _
      _ ≤ 1 := by
          rw [abs_sub_comm]
          linarith
  have hnear' : |(a + a) - (b + b)| ≤ 1 := by exact_mod_cast hnear
  rw [abs_le] at hnear'
  omega

theorem IsNearestMultiple.neg {places : ℕ} {x y : ℚ} (h : IsNearestMultiple places x y) :
    IsNearestMultiple places (-x) (-y) := by
  rw [isNearestMultiple_iff] at h ⊢
  obtain ⟨k, rfl, hk, heven⟩ := h
  refine ⟨-k, by push_cast; ring, ?_⟩
  have hdist : |-x * 10 ^ places - ((-k : ℤ) : ℚ)| = |x * 10 ^ places - k| := by
    rw [← abs_neg]
    push_cast
    ring_nf
  rw [hdist, even_neg]
  exact ⟨hk, heven⟩

/-- A multiple of a coarser unit is kept as it is. -/
theorem isNearestMultiple_self {kept places : ℕ} (h : kept ≤ places) (k : ℤ) :
    IsNearestMultiple places (k / 10 ^ kept) (k / 10 ^ kept) := by
  have hunit : (10 : ℚ) ^ places = 10 ^ (places - kept) * 10 ^ kept := by
    rw [← pow_add, Nat.sub_add_cancel h]
  have hscale : (k / 10 ^ kept * 10 ^ places : ℚ) = (k * 10 ^ (places - kept) : ℤ) := by
    rw [hunit]
    push_cast
    field_simp
  rw [isNearestMultiple_iff]
  refine ⟨k * 10 ^ (places - kept), ?_, ?_⟩
  · rw [← hscale, mul_div_cancel_right₀ _ (by positivity)]
  · rw [hscale, sub_self]
    norm_num

theorem isNearestMultiple_intCast (places : ℕ) (n : ℤ) : IsNearestMultiple places n n := by
  simpa using isNearestMultiple_self places.zero_le n

/-! ## The rounded quotient -/

/-- Only a remainder of half the divisor is that far from a multiple of the divisor. -/
theorem two_mul_mod_of_tie {num den : ℕ} (h : 0 < den)
    (htie : 2 * |(num : ℤ) - roundDiv num den * den| = den) : 2 * (num % den) = den := by
  have hmod := Nat.mod_lt num h
  have hdm : ((num / den : ℕ) : ℤ) * den + (num % den : ℕ) = num := by
    rw [mul_comm]
    exact_mod_cast Nat.div_add_mod num den
  -- The remainder leads to one of the two neighbours, and what it lacks to the other.
  rcases roundDiv_cases num den with hq | hq <;> rw [hq] at htie
  · have hrest : (num : ℤ) - (num / den : ℕ) * den = (num % den : ℕ) := by linarith
    rw [hrest, Nat.abs_cast] at htie
    exact_mod_cast htie
  · have hrest : (num : ℤ) - (num / den + 1 : ℕ) * den = -(den - (num % den : ℕ)) := by
      push_cast at hdm ⊢
      linarith
    rw [hrest, abs_neg, abs_of_nonneg (by omega)] at htie
    omega

/-- The whole number that stands for a quotient is nearest to it. -/
theorem roundDiv_nearest (num : ℕ) {den : ℕ} (h : 0 < den) :
    2 * |(num : ℚ) / den - (roundDiv num den : ℤ)| ≤ 1 ∧
      (2 * |(num : ℚ) / den - (roundDiv num den : ℤ)| = 1 → Even (roundDiv num den : ℤ)) := by
  have hden : (0 : ℚ) < den := by exact_mod_cast h
  have hscale : 2 * |(num : ℚ) / den - (roundDiv num den : ℤ)| =
      ((2 * |(num : ℤ) - roundDiv num den * den| : ℤ) : ℚ) / den := by
    push_cast
    rw [div_sub' hden.ne', abs_div, abs_of_pos hden, mul_comm (den : ℚ), mul_div_assoc]
  obtain ⟨hlow, hhigh⟩ := two_mul_roundDiv_mul_le num h
  rw [hscale, div_le_one hden, div_eq_one_iff_eq hden.ne']
  constructor
  · have herror : 2 * |(num : ℤ) - roundDiv num den * den| ≤ den := by
      zify at hlow hhigh
      rcases abs_cases ((num : ℤ) - roundDiv num den * den) with ⟨habs, -⟩ | ⟨habs, -⟩ <;> omega
    exact_mod_cast herror
  · intro htie
    have hhalf := two_mul_mod_of_tie h (by exact_mod_cast htie)
    exact_mod_cast Nat.even_iff.2 (roundDiv_even_of_half hhalf)

theorem isNearestMultiple_roundDiv (num : ℕ) {den : ℕ} (h : 0 < den) (places : ℕ) :
    IsNearestMultiple places (num / den) (roundDiv (num * 10 ^ places) den / 10 ^ places) := by
  have hnearest := roundDiv_nearest (num * 10 ^ places) h
  have hquotient : ((num * 10 ^ places : ℕ) : ℚ) / den = num / den * 10 ^ places := by
    push_cast
    ring
  rw [hquotient] at hnearest
  rw [isNearestMultiple_iff]
  exact ⟨roundDiv (num * 10 ^ places) den, by push_cast; rfl, hnearest⟩

/-! ## Rounding a double -/

theorem two_zpow_eq (e : ℤ) : (2 : ℚ) ^ e = 2 ^ e.toNat / 2 ^ (-e).toNat := by
  obtain ⟨n, rfl | rfl⟩ := e.eq_nat_or_neg
  · simp
  · simp [zpow_neg]

theorem mul_two_zpow_eq (m : ℕ) (e : ℤ) :
    (m * 2 ^ e : ℚ) = (m * 2 ^ e.toNat : ℕ) / (2 ^ (-e).toNat : ℕ) := by
  rw [two_zpow_eq, ← mul_div_assoc]
  push_cast
  rfl

namespace Decimal

theorem isNearestMultiple_rounded (s : Sign) (m : ℕ) (e : ℤ) (places : ℕ) :
    IsNearestMultiple places (signed s (m * 2 ^ e)) (rounded s m e places).value := by
  have hmagnitude :=
    isNearestMultiple_roundDiv (m * 2 ^ e.toNat) (Nat.two_pow_pos (-e).toNat) places
  rw [← mul_two_zpow_eq] at hmagnitude
  cases s with
  | positive => exact hmagnitude
  | negative => exact hmagnitude.neg

/-- A number with `b` binary places has no more than `b` decimal ones, so that nothing is lost where
only so many are computed. -/
theorem isNearestMultiple_magnitude (s : Sign) (m : ℕ) (e : ℤ) (places : ℕ) :
    IsNearestMultiple places (m * 2 ^ e)
      ((ofBinary s m e places).unscaled / 10 ^ (ofBinary s m e places).places) := by
  show IsNearestMultiple places _ ((roundDiv (m * 2 ^ e.toNat * 10 ^ min places (-e).toNat)
    (2 ^ (-e).toNat) : ℕ) / 10 ^ min places (-e).toNat)
  rw [mul_two_zpow_eq]
  generalize m * 2 ^ e.toNat = num
  generalize (-e).toNat = b
  rcases le_total places b with hkept | hkept
  · rw [min_eq_left hkept]
    exact isNearestMultiple_roundDiv num (Nat.two_pow_pos b) places
  · rw [min_eq_right hkept]
    have htens : num * 10 ^ b = num * 5 ^ b * 2 ^ b := by
      rw [mul_assoc, ← mul_pow]
      norm_num
    have hexact : (num : ℚ) / (2 ^ b : ℕ) = (num * 5 ^ b : ℕ) / 10 ^ b := by
      rw [div_eq_div_iff (by positivity) (by positivity)]
      exact_mod_cast htens
    rw [htens, roundDiv_mul_right _ (by positivity), hexact]
    exact isNearestMultiple_self hkept (num * 5 ^ b : ℕ)

theorem isNearestMultiple_ofBinary (s : Sign) (m : ℕ) (e : ℤ) (places : ℕ) :
    IsNearestMultiple places (signed s (m * 2 ^ e)) (ofBinary s m e places).value := by
  have hmagnitude := isNearestMultiple_magnitude s m e places
  cases s with
  | positive => exact hmagnitude
  | negative => exact hmagnitude.neg

end Decimal

/-! ## The text of a double -/

/-- A finite number is shown as a decimal fraction that has no more places than were asked for. -/
theorem exists_decimal {x : Float} (h : x.isFinite = true) (places : ℕ) :
    ∃ d : Decimal, numberText x places = d.text ∧ d.places ≤ places ∧
      IsNearestMultiple places (exactValue x) d.value := by
  have hunpack : x.toModel.unpack.isFinite = true := h
  unfold numberText exactValue
  cases hx : x.toModel.unpack with
  | notANumber => simp [hx, Float.Model.UnpackedFloat.isFinite] at hunpack
  | infinity s => simp [hx, Float.Model.UnpackedFloat.isFinite] at hunpack
  | zero s =>
    have htext : "0" = (⟨false, 0, 0⟩ : Decimal).text := by decide +kernel
    have hnearest := isNearestMultiple_intCast places 0
    exact ⟨⟨false, 0, 0⟩, htext, Nat.zero_le _, by simpa [Decimal.value] using hnearest⟩
  | finite s m e hm =>
    exact ⟨_, rfl, min_le_left _ _, Decimal.isNearestMultiple_ofBinary s m e places⟩

theorem eq_numberText_iff {x : Float} (h : x.isFinite = true) (places : ℕ) (s : String) :
    s = numberText x places ↔
      IsCanonicalDecimal s ∧ IsNearestMultiple places (exactValue x) (decimalValue s.toList) := by
  obtain ⟨d, htext, -, hnearest⟩ := exists_decimal h places
  rw [htext, Decimal.eq_text_iff]
  refine and_congr_right' ⟨fun hvalue => ?_, fun hs => hs.unique hnearest⟩
  rwa [hvalue]

theorem numberText_of_isNearestMultiple {x : Float} (h : x.isFinite = true) {places : ℕ} {n : ℤ}
    (hn : IsNearestMultiple places (exactValue x) n) : numberText x places = intText n := by
  obtain ⟨d, htext, -, hnearest⟩ := exists_decimal h places
  rw [htext, Decimal.text_eq_intText (hnearest.unique hn)]

/-- A finite number is shown by the canonical text of the nearest multiple of `10 ^ -places`, and
by no other text: with no more digits behind the point than asked for, without a zero or the point
at its end, with all zeros of a number that is or becomes whole, and without a sign on zero. -/
theorem numberText_canonical {x : Float} (h : x.isFinite = true) (places : ℕ) :
    (∀ s : String, s = numberText x places ↔
      IsCanonicalDecimal s ∧ IsNearestMultiple places (exactValue x) (decimalValue s.toList)) ∧
      (fractionChars (numberText x places).toList).length ≤ places ∧
      (fractionChars (numberText x places).toList).getLast? ≠ some '0' ∧
      (numberText x places).toList.getLast? ≠ some '.' ∧
      (∀ n : ℤ, exactValue x = n → numberText x places = intText n) ∧
      (∀ n : ℤ, IsNearestMultiple places (exactValue x) n → numberText x places = intText n) ∧
      (IsNearestMultiple places (exactValue x) 0 → numberText x places = "0") := by
  have hzero : intText 0 = "0" := by decide +kernel
  obtain ⟨d, htext, hplaces, -⟩ := exists_decimal h places
  refine ⟨eq_numberText_iff h places, ?_, ?_, ?_, fun n hn => ?_,
    fun n hn => numberText_of_isNearestMultiple h hn, fun hn => ?_⟩
  · rw [htext]
    exact d.length_fractionChars_text_le.trans hplaces
  · rw [htext]
    exact d.getLast?_fractionChars_text_ne
  · rw [htext]
    exact d.getLast?_text_ne
  · refine numberText_of_isNearestMultiple h ?_
    rw [hn]
    exact isNearestMultiple_intCast places n
  · rw [← hzero]
    exact numberText_of_isNearestMultiple h (by exact_mod_cast hn)

/-- Half-way between two multiples the even one is shown, also below zero. -/
theorem numberText_minus_eighth :
    (-0.125 : Float).isFinite = true ∧ exactValue (-0.125) = -1 / 8 ∧
      numberText (-0.125) 2 = "-0.12" ∧ IsCanonicalDecimal "-0.12" ∧
      IsNearestMultiple 2 (-1 / 8) (-12 / 100) := by
  have hfinite : (-0.125 : Float).isFinite = true := by decide +kernel
  have hvalue : exactValue (-0.125) = -1 / 8 := by decide +kernel
  have htext : numberText (-0.125) 2 = "-0.12" := by decide +kernel
  have hread : decimalValue "-0.12".toList = -12 / 100 := by decide +kernel
  obtain ⟨hcanonical, hnearest⟩ := ((numberText_canonical hfinite 2).1 "-0.12").1 htext.symm
  rw [hvalue, hread] at hnearest
  exact ⟨hfinite, hvalue, htext, hcanonical, hnearest⟩

/-! ## Reading a text again -/

/-- A finite double such that no finite double is nearer to `r`. -/
def IsNearestDouble (w : Float) (r : ℚ) : Prop :=
  w.isFinite = true ∧ ¬∃ u : Float, u.isFinite = true ∧ |exactValue u - r| < |exactValue w - r|

/-- What is no farther from the rounded number than the number itself rounds alike. -/
theorem IsNearestMultiple.of_abs_sub_le {places : ℕ} {x x' y : ℚ} (h : IsNearestMultiple places x y)
    (hle : |x' - y| ≤ |x - y|) : IsNearestMultiple places x' y := by
  rw [isNearestMultiple_iff] at h ⊢
  obtain ⟨k, rfl, hk, heven⟩ := h
  rw [abs_sub_div_pow, abs_sub_div_pow, div_le_div_iff_of_pos_right (by positivity)] at hle
  exact ⟨k, rfl, by linarith, fun htie => heven (by linarith)⟩

/-- Every double that is nearest to the number on the display is shown by the same text, whichever
of the two grids, the binary and the decimal one, is finer. -/
theorem numberText_reread {x w : Float} (h : x.isFinite = true) (places : ℕ)
    (hw : IsNearestDouble w (decimalValue (numberText x places).toList)) :
    numberText w places = numberText x places := by
  obtain ⟨hfinite, hbest⟩ := hw
  obtain ⟨hcanonical, hnearest⟩ := (eq_numberText_iff h places _).1 rfl
  -- The double that was shown is itself a candidate, so that `w` is no farther away.
  have hle := not_lt.1 fun hlt => hbest ⟨x, h, hlt⟩
  exact ((eq_numberText_iff hfinite places _).2 ⟨hcanonical, hnearest.of_abs_sub_le hle⟩).symm

theorem numberText_reread_three_quarters :
    (0.7512 : Float).isFinite = true ∧
      IsNearestDouble 0.75 (decimalValue (numberText 0.7512 2).toList) ∧
      numberText 0.75 2 = numberText 0.7512 2 := by
  have hfinite : (0.7512 : Float).isFinite = true := by decide +kernel
  have hexact : decimalValue (numberText 0.7512 2).toList = exactValue 0.75 := by decide +kernel
  have hnearest : IsNearestDouble 0.75 (decimalValue (numberText 0.7512 2).toList) := by
    refine ⟨by decide +kernel, ?_⟩
    rintro ⟨u, -, hcloser⟩
    rw [hexact, sub_self, abs_zero] at hcloser
    exact absurd hcloser (not_lt.2 (abs_nonneg _))
  exact ⟨hfinite, hnearest, numberText_reread hfinite 2 hnearest⟩

end PocketCalculator
