import Mathlib
import PocketCalculator.Decimal.Fixed

/-!
# Canonical texts of decimal fractions

A decimal fraction is written with no zero in front of its whole part, none at the end of its
fraction, no point without a fraction and no sign in front of zero. Every number with finitely many
decimal places has exactly one text of this kind. Main statement: `Decimal.eq_text_iff`.

## Main definitions

* `canonicalDecimal` — the texts, as a regular expression.
* `decimalValue` — the number that a text writes.
-/

namespace PocketCalculator

/-! ## Rows of digits -/

/-- Digits in front of the point: a zero begins them only if it stands alone. -/
def IsWhole (ds : List Digit) : Prop := ds ≠ [] ∧ (1 < ds.length → ds.head? ≠ some 0)

/-- Digits behind the point: a zero does not end them. -/
def IsFraction (ds : List Digit) : Prop := ∀ d ∈ ds.getLast?, d ≠ 0

theorem foldl_digits (ds : List Digit) (v : ℕ) :
    ds.foldl (fun v d => 10 * v + d.val) v = v * 10 ^ ds.length + digitsValue ds := by
  induction ds generalizing v with
  | nil => simp [digitsValue]
  | cons d ds ih =>
    rw [digitsValue, List.foldl_cons, List.foldl_cons, ih, ih (10 * 0 + d.val), List.length_cons]
    ring

theorem digitsValue_cons (d : Digit) (ds : List Digit) :
    digitsValue (d :: ds) = d.val * 10 ^ ds.length + digitsValue ds := by
  rw [digitsValue, List.foldl_cons, foldl_digits, Nat.mul_zero, Nat.zero_add]

theorem digitsValue_lt (ds : List Digit) : digitsValue ds < 10 ^ ds.length := by
  induction ds with
  | nil => simp [digitsValue]
  | cons d ds ih =>
    have hd : d.val * 10 ^ ds.length ≤ 9 * 10 ^ ds.length := Nat.mul_le_mul_right _ (by omega)
    rw [digitsValue_cons, List.length_cons, pow_succ]
    omega

theorem IsWhole.eq_zero {ds : List Digit} (h : IsWhole ds) (hzero : digitsValue ds = 0) :
    ds = [0] := by
  obtain ⟨hne, hhead⟩ := h
  obtain ⟨d, ds, rfl⟩ := List.exists_cons_of_ne_nil hne
  obtain ⟨rfl, -⟩ := List.forall_mem_cons.1 ((digitsValue_eq_zero_iff _).1 hzero)
  obtain rfl : ds = [] := by
    by_contra hds
    exact hhead (by simpa using List.length_pos_of_ne_nil hds) rfl
  rfl

theorem IsFraction.eq_nil {ds : List Digit} (h : IsFraction ds) (hzero : digitsValue ds = 0) :
    ds = [] := by
  rcases ds.eq_nil_or_concat' with rfl | ⟨ds, d, rfl⟩
  · rfl
  · have hd : d = 0 := (digitsValue_eq_zero_iff _).1 hzero d (by simp)
    exact absurd hd (h d (by simp))

/-- Digits without a zero in front are those of the number they write. -/
theorem digitsOnto_digitsValue {ds : List Digit} (h : IsWhole ds) (rest : List Digit) :
    digitsOnto (digitsValue ds) rest = ds ++ rest := by
  obtain ⟨hne, hhead⟩ := h
  induction ds using List.reverseRecOn generalizing rest with
  | nil => exact absurd rfl hne
  | append_singleton es d ih =>
    have hlast : (⟨(10 * digitsValue es + d.val) % 10, Nat.mod_lt _ (by decide)⟩ : Digit) = d :=
      Fin.ext (by show (10 * digitsValue es + d.val) % 10 = d.val; omega)
    rw [digitsValue_append_singleton, digitsOnto, hlast]
    by_cases hes : es = []
    · subst hes
      rw [if_pos (by simp [digitsValue])]
      rfl
    · have hfirst : es.head? ≠ some 0 := by
        have hlength : 1 < (es ++ [d]).length := by
          have hpos := List.length_pos_of_ne_nil hes
          rw [List.length_append, List.length_singleton]
          omega
        rw [← List.head?_append_of_ne_nil es hes]
        exact hhead hlength
      have hpos : digitsValue es ≠ 0 := by
        rw [ne_eq, digitsValue_eq_zero_iff]
        intro hzeros
        obtain ⟨a, es, rfl⟩ := List.exists_cons_of_ne_nil hes
        exact hfirst (by rw [hzeros a List.mem_cons_self]; rfl)
      rw [if_neg (by omega), show (10 * digitsValue es + d.val) / 10 = digitsValue es by omega,
        ih _ hes (fun _ => hfirst), List.append_assoc, List.singleton_append]

/-- A numeral without zeros in front is the one that its number is written by. -/
theorem Numeral.strip_eq_ofNat (n : Numeral) : n.strip = ofNat n.value := by
  have hwhole : IsWhole n.strip.digits := by
    refine ⟨n.strip.digits_ne_nil, fun hlength hhead => ?_⟩
    have hzero : n.strip.digits = [0] := stripLeading_of_head? hhead
    rw [hzero] at hlength
    exact absurd hlength (lt_irrefl 1)
  have hdigits := digitsOnto_digitsValue hwhole []
  rw [List.append_nil] at hdigits
  rw [← n.value_strip, ofNat]
  simp only [value, hdigits]

theorem stripLeadingZeros_text (n : Numeral) : stripLeadingZeros n.text = intText n.value := by
  rw [← n.text_strip, n.strip_eq_ofNat]
  rfl

/-! ## The digits of a fraction -/

namespace Decimal

theorem fraction_zero (k : ℕ) : fraction k 0 = [] := by
  cases k <;> rfl

theorem length_fraction_le (k f : ℕ) : (fraction k f).length ≤ k := by
  fun_induction fraction k f with
  | case1 => simp
  | case2 => simp
  | case3 k f hf ih => rw [List.length_cons]; omega

theorem digitsValue_fraction {k f : ℕ} (h : f < 10 ^ k) :
    digitsValue (fraction k f) * 10 ^ (k - (fraction k f).length) = f := by
  fun_induction fraction k f with
  | case1 f => simp_all [digitsValue]
  | case2 k => simp [digitsValue]
  | case3 k f hf ih =>
    have hdigit : f / 10 ^ k % 10 = f / 10 ^ k :=
      Nat.mod_eq_of_lt (Nat.div_lt_of_lt_mul (by rwa [← pow_succ]))
    have hlength : k + 1 - ((fraction k (f % 10 ^ k)).length + 1) =
        k - (fraction k (f % 10 ^ k)).length := by omega
    rw [digitsValue_cons, List.length_cons, hlength, Nat.add_mul, Nat.mul_assoc, ← pow_add,
      Nat.add_sub_cancel' (length_fraction_le k _), ih (Nat.mod_lt _ (by positivity))]
    show f / 10 ^ k % 10 * 10 ^ k + f % 10 ^ k = f
    rw [hdigit, Nat.div_add_mod']

theorem isFraction_fraction {k f : ℕ} (h : f < 10 ^ k) : IsFraction (fraction k f) := by
  fun_induction fraction k f with
  | case1 => simp [IsFraction]
  | case2 => simp [IsFraction]
  | case3 k f hf ih =>
    have hrest : f % 10 ^ k < 10 ^ k := Nat.mod_lt _ (by positivity)
    have hvalue := digitsValue_fraction hrest
    cases hdigits : fraction k (f % 10 ^ k) with
    | nil =>
      -- Nothing follows, so that the digit is all there is of a number that is not zero.
      rintro d hd rfl
      have hdigit : f / 10 ^ k % 10 = 0 := congrArg Fin.val (Option.some.inj hd)
      have hsmall : f / 10 ^ k < 10 := Nat.div_lt_of_lt_mul (by rwa [← pow_succ])
      have hzero : f % 10 ^ k = 0 := by rw [← hvalue, hdigits]; simp [digitsValue]
      have hsum := Nat.div_add_mod' f (10 ^ k)
      rw [Nat.mod_eq_of_lt hsmall] at hdigit
      rw [hdigit, hzero] at hsum
      exact hf (by omega)
    | cons e es =>
      rw [IsFraction, List.getLast?_cons_cons, ← hdigits]
      exact ih hrest

theorem fraction_digitsValue {ds : List Digit} (h : IsFraction ds) {k : ℕ}
    (hk : ds.length ≤ k) : fraction k (digitsValue ds * 10 ^ (k - ds.length)) = ds := by
  induction ds generalizing k with
  | nil => simp [digitsValue, fraction_zero]
  | cons d ds ih =>
    obtain ⟨k, rfl⟩ := Nat.exists_eq_succ_of_ne_zero (by simp at hk; omega : k ≠ 0)
    rw [List.length_cons] at hk
    have hne : digitsValue (d :: ds) ≠ 0 := fun hzero => List.cons_ne_nil d ds (h.eq_nil hzero)
    have hrest : IsFraction ds := by
      intro e he
      cases ds with
      | nil => cases he
      | cons b ds => exact h e (by rwa [List.getLast?_cons_cons])
    have hlt : digitsValue ds * 10 ^ (k - ds.length) < 10 ^ k := by
      calc digitsValue ds * 10 ^ (k - ds.length)
          < 10 ^ ds.length * 10 ^ (k - ds.length) :=
            Nat.mul_lt_mul_of_pos_right (digitsValue_lt ds) (by positivity)
        _ = 10 ^ k := by rw [← pow_add, Nat.add_sub_cancel' (by omega)]
    have hsplit : digitsValue (d :: ds) * 10 ^ (k + 1 - (ds.length + 1)) =
        d.val * 10 ^ k + digitsValue ds * 10 ^ (k - ds.length) := by
      rw [digitsValue_cons, Nat.add_sub_add_right, Nat.add_mul, Nat.mul_assoc, ← pow_add,
        Nat.add_sub_cancel' (by omega)]
    have hne' : d.val * 10 ^ k + digitsValue ds * 10 ^ (k - ds.length) ≠ 0 := by
      rw [← hsplit]
      positivity
    rw [List.length_cons, hsplit, fraction, if_neg hne']
    congr 1
    · apply Fin.ext
      show (d.val * 10 ^ k + digitsValue ds * 10 ^ (k - ds.length)) / 10 ^ k % 10 = d.val
      rw [Nat.mul_comm, Nat.mul_add_div (by positivity), Nat.div_eq_of_lt hlt, Nat.add_zero,
        Nat.mod_eq_of_lt d.isLt]
    · rw [Nat.mul_comm, Nat.mul_add_mod, Nat.mod_eq_of_lt hlt]
      exact ih hrest (by omega)

/-- Zeros at the end of a fraction are not written. -/
theorem fraction_scale {k f : ℕ} (h : f < 10 ^ k) (j : ℕ) :
    fraction (k + j) (f * 10 ^ j) = fraction k f := by
  have hlength := length_fraction_le k f
  have hvalue : f * 10 ^ j =
      digitsValue (fraction k f) * 10 ^ (k + j - (fraction k f).length) := by
    rw [show k + j - (fraction k f).length = k - (fraction k f).length + j by omega, pow_add,
      ← Nat.mul_assoc, digitsValue_fraction h]
  rw [hvalue]
  exact fraction_digitsValue (isFraction_fraction h) (by omega)

end Decimal

/-! ## The number that a text writes -/

/-- What stands in front of the point of a text, and what stands behind it. -/
def wholeChars (s : List Char) : List Char := s.takeWhile (· ≠ '.')

@[inherit_doc wholeChars]
def fractionChars (s : List Char) : List Char := (s.dropWhile (· ≠ '.')).drop 1

def charsValue (s : List Char) : ℕ := digitsValue (s.filterMap Digit.ofChar?)

def unsignedValue (s : List Char) : ℚ :=
  charsValue (wholeChars s) + charsValue (fractionChars s) / 10 ^ (fractionChars s).length

def decimalValue : List Char → ℚ
  | '-' :: s => -unsignedValue s
  | s => unsignedValue s

def pointChars : List Digit → List Char
  | [] => []
  | d :: ds => '.' :: (d :: ds).map Digit.toChar

theorem charsValue_digits (ds : List Digit) :
    charsValue (ds.map Digit.toChar) = digitsValue ds := by
  rw [charsValue, List.filterMap_map]
  simp

theorem ne_point_of_mem_digits {ds : List Digit} : ∀ c ∈ ds.map Digit.toChar, c ≠ '.' := by
  have hdigit : ∀ d : Digit, d.toChar ≠ '.' := by decide
  intro c hc
  obtain ⟨d, -, rfl⟩ := List.mem_map.1 hc
  exact hdigit d

theorem wholeChars_append (ds es : List Digit) :
    wholeChars (ds.map Digit.toChar ++ pointChars es) = ds.map Digit.toChar := by
  rw [wholeChars, List.takeWhile_append_of_pos (by simpa using ne_point_of_mem_digits)]
  cases es <;> simp [pointChars]

theorem fractionChars_append (ds es : List Digit) :
    fractionChars (ds.map Digit.toChar ++ pointChars es) = es.map Digit.toChar := by
  rw [fractionChars, List.dropWhile_append_of_pos (by simpa using ne_point_of_mem_digits)]
  cases es <;> simp [pointChars]

theorem unsignedValue_append (ds es : List Digit) :
    unsignedValue (ds.map Digit.toChar ++ pointChars es) =
      digitsValue ds + digitsValue es / 10 ^ es.length := by
  rw [unsignedValue, wholeChars_append, fractionChars_append, charsValue_digits, charsValue_digits,
    List.length_map]

theorem head?_digits_append_ne {ds : List Digit} (h : ds ≠ []) (s : List Char) :
    (ds.map Digit.toChar ++ s).head? ≠ some '-' := by
  have hdigit : ∀ d : Digit, d.toChar ≠ '-' := by decide
  obtain ⟨d, ds, rfl⟩ := List.exists_cons_of_ne_nil h
  exact fun hminus => hdigit d (Option.some.inj hminus)

theorem decimalValue_of_head?_ne {s : List Char} (h : s.head? ≠ some '-') :
    decimalValue s = unsignedValue s := by
  unfold decimalValue
  split
  · simp at h
  · rfl

namespace Decimal

def value (d : Decimal) : ℚ :=
  if d.negative then -(d.unscaled / 10 ^ d.places) else d.unscaled / 10 ^ d.places

def wholeDigits (d : Decimal) : List Digit := digitsOnto (d.unscaled / 10 ^ d.places) []

def fractionDigits (d : Decimal) : List Digit :=
  fraction d.places (d.unscaled % 10 ^ d.places)

theorem toList_text (d : Decimal) :
    d.text.toList =
      d.sign ++ (d.wholeDigits.map Digit.toChar ++ pointChars d.fractionDigits) := by
  have hpoint : d.point = pointChars d.fractionDigits := by
    unfold point fractionDigits
    cases fraction d.places (d.unscaled % 10 ^ d.places) <;> rfl
  rw [text, String.toList_ofList, List.append_assoc, hpoint]
  rfl

theorem wholeDigits_ne_nil (d : Decimal) : d.wholeDigits ≠ [] := digitsOnto_ne_nil _ []

theorem digitsValue_wholeDigits (d : Decimal) :
    digitsValue d.wholeDigits = d.unscaled / 10 ^ d.places := by
  rw [wholeDigits, digitsValue, foldl_digitsOnto]
  rfl

theorem unscaled_div_eq (d : Decimal) :
    (d.unscaled / 10 ^ d.places : ℚ) =
      digitsValue d.wholeDigits + digitsValue d.fractionDigits / 10 ^ d.fractionDigits.length := by
  have hfraction : digitsValue d.fractionDigits * 10 ^ (d.places - d.fractionDigits.length) =
      d.unscaled % 10 ^ d.places :=
    digitsValue_fraction (Nat.mod_lt _ (by positivity))
  have hlength : d.fractionDigits.length ≤ d.places := length_fraction_le _ _
  have hsum : (d.unscaled : ℚ) = (d.unscaled / 10 ^ d.places : ℕ) * 10 ^ d.places +
      digitsValue d.fractionDigits * 10 ^ (d.places - d.fractionDigits.length) := by
    have hnat := Nat.div_add_mod' d.unscaled (10 ^ d.places)
    rw [← hfraction] at hnat
    exact_mod_cast hnat.symm
  have hpow : (10 : ℚ) ^ d.places =
      10 ^ d.fractionDigits.length * 10 ^ (d.places - d.fractionDigits.length) := by
    rw [← pow_add, Nat.add_sub_cancel' hlength]
  rw [digitsValue_wholeDigits, hsum, add_div, mul_div_cancel_right₀ _ (by positivity)]
  congr 1
  rw [hpow, mul_div_mul_right _ _ (by positivity)]

theorem abs_value (d : Decimal) : |d.value| = d.unscaled / 10 ^ d.places := by
  have hnonneg : (0 : ℚ) ≤ d.unscaled / 10 ^ d.places := by positivity
  unfold value
  split
  · rw [abs_neg, abs_of_nonneg hnonneg]
  · rw [abs_of_nonneg hnonneg]

/-- The sign is that of the number. -/
theorem sign_eq (d : Decimal) : d.sign = if d.value < 0 then ['-'] else [] := by
  have hpos : (0 : ℚ) < d.unscaled / 10 ^ d.places ↔ d.unscaled ≠ 0 := by
    rw [div_pos_iff_of_pos_right (by positivity), Nat.cast_pos, Nat.pos_iff_ne_zero]
  have hnonneg : (0 : ℚ) ≤ d.unscaled / 10 ^ d.places := by positivity
  unfold sign value
  cases d.negative with
  | false => simp [not_lt.2 hnonneg]
  | true => simp [hpos]

theorem decimalValue_text (d : Decimal) : decimalValue d.text.toList = d.value := by
  have hunsigned : unsignedValue (d.wholeDigits.map Digit.toChar ++ pointChars d.fractionDigits) =
      |d.value| := by
    rw [unsignedValue_append, ← unscaled_div_eq, abs_value]
  rw [toList_text, sign_eq]
  by_cases hneg : d.value < 0
  · rw [if_pos hneg, List.singleton_append]
    show -unsignedValue _ = d.value
    rw [hunsigned, abs_of_neg hneg, neg_neg]
  · have hhead := head?_digits_append_ne d.wholeDigits_ne_nil (pointChars d.fractionDigits)
    rw [if_neg hneg, List.nil_append, decimalValue_of_head?_ne hhead, hunsigned,
      abs_of_nonneg (not_lt.1 hneg)]

theorem wholeDigits_eq_scaled (d : Decimal) (j : ℕ) :
    d.wholeDigits = digitsOnto (d.unscaled * 10 ^ j / 10 ^ (d.places + j)) [] := by
  rw [pow_add, Nat.mul_div_mul_right _ _ (by positivity)]
  rfl

theorem fractionDigits_eq_scaled (d : Decimal) (j : ℕ) :
    d.fractionDigits = fraction (d.places + j) (d.unscaled * 10 ^ j % 10 ^ (d.places + j)) := by
  rw [pow_add, Nat.mul_mod_mul_right, fraction_scale (Nat.mod_lt _ (by positivity))]
  rfl

/-- A number has one text, with however many places it is given. -/
theorem text_eq_of_value_eq {d d' : Decimal} (h : d.value = d'.value) : d.text = d'.text := by
  have habs : (d.unscaled / 10 ^ d.places : ℚ) = d'.unscaled / 10 ^ d'.places := by
    rw [← abs_value, ← abs_value, h]
  have hscaled : d.unscaled * 10 ^ d'.places = d'.unscaled * 10 ^ d.places := by
    rw [div_eq_div_iff (by positivity) (by positivity)] at habs
    exact_mod_cast habs
  rw [← String.toList_inj, toList_text, toList_text, sign_eq, sign_eq, h,
    d.wholeDigits_eq_scaled d'.places, d.fractionDigits_eq_scaled d'.places, hscaled,
    d'.wholeDigits_eq_scaled d.places, d'.fractionDigits_eq_scaled d.places,
    Nat.add_comm d.places d'.places]

/-- An integer is written by all of its digits. -/
theorem text_eq_intText {d : Decimal} {n : ℤ} (h : d.value = n) : d.text = intText n := by
  cases n with
  | ofNat n =>
    have hvalue : d.value = (⟨false, n, 0⟩ : Decimal).value := by simpa [value] using h
    rw [text_eq_of_value_eq hvalue]
    simp [text, sign, whole, point, fraction, intText, natText, Numeral.text]
  | negSucc n =>
    have hvalue : d.value = (⟨true, n + 1, 0⟩ : Decimal).value := by simpa [value] using h
    rw [text_eq_of_value_eq hvalue]
    simp [text, sign, whole, point, fraction, intText, natText, Numeral.text]

theorem fractionChars_text (d : Decimal) :
    fractionChars d.text.toList = d.fractionDigits.map Digit.toChar := by
  have hsign : ∀ c ∈ d.sign, c ≠ '.' := by
    rw [sign_eq]
    split <;> simp
  rw [toList_text, fractionChars, List.dropWhile_append_of_pos (by simpa using hsign)]
  exact fractionChars_append _ _

theorem length_fractionChars_text_le (d : Decimal) :
    (fractionChars d.text.toList).length ≤ d.places := by
  rw [fractionChars_text, List.length_map]
  exact length_fraction_le _ _

end Decimal

/-! ## Canonical texts -/

def oneOf (ds : List Digit) : RegularExpression Char := (ds.map fun d => .char d.toChar).sum

def anyDigit : RegularExpression Char := oneOf [0, 1, 2, 3, 4, 5, 6, 7, 8, 9]

def nonzeroDigit : RegularExpression Char := oneOf [1, 2, 3, 4, 5, 6, 7, 8, 9]

def signPattern : RegularExpression Char := 1 + .char '-'

def wholePattern : RegularExpression Char := .char '0' + nonzeroDigit * anyDigit.star

def pointPattern : RegularExpression Char := 1 + .char '.' * anyDigit.star * nonzeroDigit

/-- The pattern `-?(0|[1-9][0-9]*)(\.[0-9]*[1-9])?`. -/
def canonicalDecimal : RegularExpression Char := signPattern * wholePattern * pointPattern

/-- A canonical text is one of the pattern that is not a zero with a sign. -/
def IsCanonicalDecimal (s : String) : Prop := s.toList ∈ canonicalDecimal.matches' ∧ s ≠ "-0"

theorem mem_oneOf_iff (ds : List Digit) (s : List Char) :
    s ∈ (oneOf ds).matches' ↔ ∃ d ∈ ds, s = [d.toChar] := by
  induction ds with
  | nil => simp [oneOf]
  | cons d ds ih =>
    rw [oneOf, List.map_cons, List.sum_cons, RegularExpression.matches'_add, Language.mem_add,
      RegularExpression.matches'_char, List.exists_mem_cons_iff, ← ih]
    rfl

theorem mem_anyDigit_iff (s : List Char) :
    s ∈ anyDigit.matches' ↔ ∃ d : Digit, s = [d.toChar] := by
  have hall : ∀ d : Digit, d ∈ [0, 1, 2, 3, 4, 5, 6, 7, 8, 9] := by decide
  rw [anyDigit, mem_oneOf_iff]
  simp only [hall, true_and]

theorem mem_nonzeroDigit_iff (s : List Char) :
    s ∈ nonzeroDigit.matches' ↔ ∃ d : Digit, d ≠ 0 ∧ s = [d.toChar] := by
  have hall : ∀ d : Digit, d ∈ [1, 2, 3, 4, 5, 6, 7, 8, 9] ↔ d ≠ 0 := by decide
  rw [nonzeroDigit, mem_oneOf_iff]
  simp only [hall]

theorem mem_star_anyDigit_iff (s : List Char) :
    s ∈ anyDigit.star.matches' ↔ ∃ ds : List Digit, s = ds.map Digit.toChar := by
  rw [RegularExpression.matches'_star, Language.mem_kstar]
  constructor
  · rintro ⟨ws, rfl, hws⟩
    induction ws with
    | nil => exact ⟨[], rfl⟩
    | cons w ws ih =>
      obtain ⟨hw, hrest⟩ := List.forall_mem_cons.1 hws
      obtain ⟨d, rfl⟩ := (mem_anyDigit_iff w).1 hw
      obtain ⟨ds, hds⟩ := ih hrest
      exact ⟨d :: ds, by rw [List.flatten_cons, hds]; rfl⟩
  · rintro ⟨ds, rfl⟩
    refine ⟨ds.map fun d => [d.toChar], ?_, ?_⟩
    · rw [← List.flatMap_def, List.map_eq_flatMap]
    · intro w hw
      obtain ⟨d, -, rfl⟩ := List.mem_map.1 hw
      exact (mem_anyDigit_iff _).2 ⟨d, rfl⟩

theorem mem_signPattern_iff (s : List Char) : s ∈ signPattern.matches' ↔ s = [] ∨ s = ['-'] := by
  rw [signPattern, RegularExpression.matches'_add, Language.mem_add,
    RegularExpression.matches'_epsilon, RegularExpression.matches'_char, Language.mem_one]
  rfl

theorem mem_wholePattern_iff (s : List Char) :
    s ∈ wholePattern.matches' ↔ ∃ ds : List Digit, IsWhole ds ∧ s = ds.map Digit.toChar := by
  rw [wholePattern, RegularExpression.matches'_add, Language.mem_add,
    RegularExpression.matches'_char, RegularExpression.matches'_mul, Language.mem_mul]
  simp only [mem_nonzeroDigit_iff, mem_star_anyDigit_iff]
  constructor
  · rintro (hzero | ⟨_, ⟨d, hd, rfl⟩, _, ⟨ds, rfl⟩, rfl⟩)
    · exact ⟨[0], ⟨by simp, by simp⟩, hzero⟩
    · exact ⟨d :: ds, ⟨by simp, by simpa using fun _ => hd⟩, rfl⟩
  · rintro ⟨ds, ⟨hne, hhead⟩, rfl⟩
    obtain ⟨d, ds, rfl⟩ := List.exists_cons_of_ne_nil hne
    by_cases hd : d = 0
    · obtain rfl : ds = [] := by
        by_contra hds
        exact hhead (by simpa using List.length_pos_of_ne_nil hds) (by rw [hd]; rfl)
      exact .inl (by rw [hd]; rfl)
    · exact .inr ⟨_, ⟨d, hd, rfl⟩, _, ⟨ds, rfl⟩, rfl⟩

theorem pointChars_concat (ds : List Digit) (d : Digit) :
    pointChars (ds ++ [d]) = '.' :: (ds.map Digit.toChar ++ [d.toChar]) := by
  cases ds <;> simp [pointChars]

theorem mem_pointPattern_iff (s : List Char) :
    s ∈ pointPattern.matches' ↔ ∃ ds : List Digit, IsFraction ds ∧ s = pointChars ds := by
  rw [pointPattern, RegularExpression.matches'_add, Language.mem_add,
    RegularExpression.matches'_epsilon, Language.mem_one, RegularExpression.matches'_mul,
    Language.mem_mul, RegularExpression.matches'_mul, RegularExpression.matches'_char]
  simp only [Language.mem_mul, mem_nonzeroDigit_iff, mem_star_anyDigit_iff]
  constructor
  · rintro (rfl | ⟨_, ⟨_, rfl, _, ⟨ds, rfl⟩, rfl⟩, _, ⟨d, hd, rfl⟩, rfl⟩)
    · exact ⟨[], by simp [IsFraction], rfl⟩
    · exact ⟨ds ++ [d], by simpa [IsFraction] using hd, by rw [pointChars_concat]; rfl⟩
  · rintro ⟨ds, hlast, rfl⟩
    rcases ds.eq_nil_or_concat' with rfl | ⟨ds, d, rfl⟩
    · exact .inl rfl
    · have hd : d ≠ 0 := hlast d (by simp)
      refine .inr ⟨_, ⟨_, rfl, _, ⟨ds, rfl⟩, rfl⟩, _, ⟨d, hd, rfl⟩, ?_⟩
      rw [pointChars_concat]
      rfl

theorem mem_canonicalDecimal_iff (s : List Char) :
    s ∈ canonicalDecimal.matches' ↔ ∃ sign ds es, (sign = [] ∨ sign = ['-']) ∧ IsWhole ds ∧
      IsFraction es ∧ s = sign ++ (ds.map Digit.toChar ++ pointChars es) := by
  rw [canonicalDecimal, RegularExpression.matches'_mul, RegularExpression.matches'_mul]
  simp only [Language.mem_mul, mem_signPattern_iff, mem_wholePattern_iff, mem_pointPattern_iff]
  constructor
  · rintro ⟨_, ⟨sign, hsign, _, ⟨ds, hds, rfl⟩, rfl⟩, _, ⟨es, hes, rfl⟩, rfl⟩
    exact ⟨sign, ds, es, hsign, hds, hes, List.append_assoc _ _ _⟩
  · rintro ⟨sign, ds, es, hsign, hds, hes, rfl⟩
    exact ⟨_, ⟨sign, hsign, _, ⟨ds, hds, rfl⟩, rfl⟩, _, ⟨es, hes, rfl⟩, List.append_assoc _ _ _⟩

namespace Decimal

theorem isWhole_wholeDigits (d : Decimal) : IsWhole d.wholeDigits := by
  refine ⟨d.wholeDigits_ne_nil, ?_⟩
  by_cases hzero : d.unscaled / 10 ^ d.places = 0
  · rw [wholeDigits, hzero, digitsOnto]
    simp
  · intro _ hhead
    exact digitsOnto_head_ne_zero _ hzero [] 0 hhead rfl

theorem isFraction_fractionDigits (d : Decimal) : IsFraction d.fractionDigits :=
  isFraction_fraction (Nat.mod_lt _ (by positivity))

/-- The fraction has no zero at its end. -/
theorem getLast?_fractionChars_text_ne (d : Decimal) :
    (fractionChars d.text.toList).getLast? ≠ some '0' := by
  rw [fractionChars_text, List.getLast?_map, Ne, Option.map_eq_some_iff]
  rintro ⟨a, ha, hzero⟩
  exact d.isFraction_fractionDigits a ha (Digit.toChar_injective hzero)

/-- The point does not stand at the end. -/
theorem getLast?_text_ne (d : Decimal) : d.text.toList.getLast? ≠ some '.' := by
  have hdigit : ∀ a : Digit, a.toChar ≠ '.' := by decide
  rw [toList_text]
  rcases d.fractionDigits.eq_nil_or_concat' with hes | ⟨es, a, hes⟩
  · obtain ⟨ds, a, hds⟩ := d.wholeDigits.eq_nil_or_concat'.resolve_left d.wholeDigits_ne_nil
    simp [hes, hds, pointChars, hdigit]
  · rw [hes, pointChars_concat, ← List.cons_append, ← List.append_assoc, ← List.append_assoc,
      List.getLast?_concat]
    exact fun hpoint => hdigit a (Option.some.inj hpoint)

theorem isCanonicalDecimal_text (d : Decimal) : IsCanonicalDecimal d.text := by
  refine ⟨?_, ?_⟩
  · rw [mem_canonicalDecimal_iff]
    refine ⟨_, _, _, ?_, d.isWhole_wholeDigits, d.isFraction_fractionDigits, d.toList_text⟩
    unfold sign
    split <;> simp
  · intro htext
    -- The text would write zero, and zero has no sign.
    have hminus : d.text.toList = '-' :: ([0].map Digit.toChar ++ pointChars []) := by
      rw [htext]
      rfl
    have hzero : d.value = 0 := by
      rw [← d.decimalValue_text, hminus]
      show -unsignedValue _ = 0
      rw [unsignedValue_append]
      simp [digitsValue]
    rw [toList_text, sign_eq, hzero, if_neg (lt_irrefl 0), List.nil_append] at hminus
    exact head?_digits_append_ne d.wholeDigits_ne_nil _ (congrArg List.head? hminus)

/-- The decimal fraction with given digits on both sides of its point. -/
def ofDigits (negative : Bool) (ds es : List Digit) : Decimal :=
  ⟨negative, digitsValue ds * 10 ^ es.length + digitsValue es, es.length⟩

theorem wholeDigits_ofDigits (negative : Bool) {ds : List Digit} (h : IsWhole ds)
    (es : List Digit) : (ofDigits negative ds es).wholeDigits = ds := by
  have hdiv : (digitsValue ds * 10 ^ es.length + digitsValue es) / 10 ^ es.length =
      digitsValue ds := by
    rw [Nat.mul_comm, Nat.mul_add_div (by positivity), Nat.div_eq_of_lt (digitsValue_lt es),
      Nat.add_zero]
  show digitsOnto ((digitsValue ds * 10 ^ es.length + digitsValue es) / 10 ^ es.length) [] = ds
  rw [hdiv, digitsOnto_digitsValue h, List.append_nil]

theorem fractionDigits_ofDigits (negative : Bool) (ds : List Digit) {es : List Digit}
    (h : IsFraction es) : (ofDigits negative ds es).fractionDigits = es := by
  have hmod : (digitsValue ds * 10 ^ es.length + digitsValue es) % 10 ^ es.length =
      digitsValue es * 10 ^ (es.length - es.length) := by
    rw [Nat.mul_comm, Nat.mul_add_mod, Nat.mod_eq_of_lt (digitsValue_lt es), Nat.sub_self, pow_zero,
      Nat.mul_one]
  show fraction es.length ((digitsValue ds * 10 ^ es.length + digitsValue es) % 10 ^ es.length) = es
  rw [hmod, fraction_digitsValue h le_rfl]

theorem exists_text_eq {s : String} (h : IsCanonicalDecimal s) : ∃ d : Decimal, d.text = s := by
  obtain ⟨hmem, hne⟩ := h
  obtain ⟨sign, ds, es, hsign, hds, hes, hs⟩ := (mem_canonicalDecimal_iff _).1 hmem
  have htext (negative : Bool) (hneg : (ofDigits negative ds es).sign = sign) :
      (ofDigits negative ds es).text = s := by
    rw [← String.toList_inj, toList_text, wholeDigits_ofDigits negative hds,
      fractionDigits_ofDigits negative ds hes, hneg, hs]
  rcases hsign with rfl | rfl
  · exact ⟨_, htext false rfl⟩
  · have hunscaled : digitsValue ds * 10 ^ es.length + digitsValue es ≠ 0 := by
      intro hzero
      obtain ⟨hwhole, hfraction⟩ := Nat.add_eq_zero_iff.1 hzero
      have hvalue : digitsValue ds = 0 := by simpa using hwhole
      rw [hds.eq_zero hvalue, hes.eq_nil hfraction] at hs
      exact hne (String.toList_inj.1 hs)
    exact ⟨_, htext true (if_pos (bne_iff_ne.2 hunscaled))⟩

/-- Exactly one canonical text writes a given number with finitely many places. -/
theorem eq_text_iff (d : Decimal) (s : String) :
    s = d.text ↔ IsCanonicalDecimal s ∧ decimalValue s.toList = d.value := by
  constructor
  · rintro rfl
    exact ⟨d.isCanonicalDecimal_text, d.decimalValue_text⟩
  · rintro ⟨hs, hvalue⟩
    obtain ⟨d', rfl⟩ := exists_text_eq hs
    rw [d'.decimalValue_text] at hvalue
    exact text_eq_of_value_eq hvalue

end Decimal

end PocketCalculator
