import PocketCalculator.Proofs.NearestDecimals

/-!
# Texts trimmed from a fixed count of places

The text of a number can be had in steps: every place is written, then the zeros at the end of the
fraction are left out, a point that is left at the end, and the sign of zero. Numbers that are not
finite pass through these steps as they are. Main statement: `trimmedText_eq_numberText`, for every
double and every count of places.
-/

namespace PocketCalculator

/-! ## Stripping an end -/

theorem stripEnd_append_replicate {c : Char} {s : List Char} (h : s.getLast? ≠ some c) (n : ℕ) :
    stripEnd c (s ++ List.replicate n c) = s := by
  have hself : s.reverse.dropWhile (fun d => decide (d = c)) = s.reverse := by
    rw [List.dropWhile_eq_self_iff]
    grind
  rw [stripEnd, List.reverse_append, List.reverse_replicate,
    List.dropWhile_append_of_pos (by simp), hself, List.reverse_reverse]

theorem stripEnd_of_getLast?_ne {c : Char} {s : List Char} (h : s.getLast? ≠ some c) :
    stripEnd c s = s := by
  simpa using stripEnd_append_replicate h 0

theorem stripEnd_concat {c : Char} {s : List Char} (h : s.getLast? ≠ some c) :
    stripEnd c (s ++ [c]) = s :=
  stripEnd_append_replicate h 1

/-! ## All places -/

theorem fixedFraction_zero (k : ℕ) : fixedFraction k 0 = List.replicate k 0 := by
  induction k with
  | zero => rfl
  | succ k ih => simp [fixedFraction, ih, List.replicate_succ]

/-- The digits up to the last place are those of the fraction and zeros. -/
theorem exists_fixedFraction_eq (k f : ℕ) :
    ∃ n, fixedFraction k f = Decimal.fraction k f ++ List.replicate n 0 := by
  fun_induction Decimal.fraction k f with
  | case1 => exact ⟨0, rfl⟩
  | case2 k => exact ⟨k + 1, fixedFraction_zero (k + 1)⟩
  | case3 k f _ ih =>
    obtain ⟨n, hn⟩ := ih
    exact ⟨n, by rw [fixedFraction, hn, List.cons_append]⟩

/-- What is left behind the point is the fraction without the zeros at its end. -/
theorem trimFraction_append {front : List Char} (hfront : ∀ c ∈ front, c ≠ '.') {ds : List Digit}
    (hds : IsFraction ds) (n : ℕ) :
    trimFraction (front ++ '.' :: (ds ++ List.replicate n 0).map Digit.toChar) =
      front ++ pointChars ds := by
  have hzeros : front ++ '.' :: (ds ++ List.replicate n 0).map Digit.toChar =
      front ++ '.' :: ds.map Digit.toChar ++ List.replicate n '0' := by
    rw [List.map_append, List.map_replicate, List.append_assoc]
    rfl
  rw [trimFraction, if_pos (by simp), hzeros]
  cases ds using List.reverseRecOn with
  | nil =>
    have hlast : front.getLast? ≠ some '.' := fun h => hfront '.' (List.mem_of_getLast? h) rfl
    rw [stripEnd_append_replicate (by simp)]
    simpa [pointChars] using stripEnd_concat hlast
  | append_singleton ds e =>
    -- The last digit is no zero, and it is no point either.
    have he : e ≠ 0 := hds e (by simp)
    have hlast : (front ++ '.' :: (ds ++ [e]).map Digit.toChar).getLast? = some e.toChar := by
      simp [List.getLast?_append, List.getLast?_cons]
    have hzero : e.toChar ≠ '0' := fun h => he (Digit.toChar_injective h)
    have hpoint : e.toChar ≠ '.' := @ne_point_of_mem_digits [e] _ List.mem_cons_self
    rw [stripEnd_append_replicate (by grind), stripEnd_of_getLast?_ne (by grind)]
    cases ds <;> rfl

namespace Decimal

theorem ne_point_of_mem_front (d : Decimal) :
    ∀ c ∈ (if d.negative then ['-'] else []) ++ d.whole, c ≠ '.' := by
  have hwhole : ∀ c ∈ d.whole, c ≠ '.' := ne_point_of_mem_digits
  split <;> simpa using hwhole

theorem trimFraction_fixedChars (d : Decimal) :
    trimFraction d.fixedChars =
      (if d.negative then ['-'] else []) ++ d.whole ++ pointChars d.fractionDigits := by
  rw [fixedChars, fractionDigits]
  by_cases hplaces : d.places = 0
  · have hpoint : '.' ∉ (if d.negative then ['-'] else []) ++ d.whole :=
      fun hmem => d.ne_point_of_mem_front '.' hmem rfl
    rw [if_pos hplaces, List.append_nil, trimFraction, if_neg hpoint, hplaces, fraction, pointChars,
      List.append_nil]
  · obtain ⟨n, hn⟩ := exists_fixedFraction_eq d.places (d.unscaled % 10 ^ d.places)
    rw [if_neg hplaces, hn]
    exact trimFraction_append d.ne_point_of_mem_front
      (isFraction_fraction (Nat.mod_lt _ (by positivity))) n

/-- With the sign of zero gone, too, the text is that of the decimal. -/
theorem unsignZero_trimFraction_fixedChars (d : Decimal) :
    unsignZero (trimFraction d.fixedChars) = d.text.toList := by
  rw [trimFraction_fixedChars, List.append_assoc]
  by_cases hzero : d.unscaled = 0
  · have hwhole : d.whole = ['0'] := by rw [whole, hzero, Nat.zero_div]; decide +kernel
    have htext : d.text.toList = ['0'] := by
      rw [text, String.toList_ofList, hwhole, sign, point, hzero, Nat.zero_mod, fraction_zero]
      simp
    rw [htext, hwhole, fractionDigits, hzero, Nat.zero_mod, fraction_zero]
    cases d.negative <;> rfl
  · have hsign : (if d.negative then ['-'] else []) = d.sign := by simp [sign, hzero]
    have htext := d.toList_text
    rw [hsign, unsignZero, if_neg]
    · exact htext.symm
    · exact fun h => (isCanonicalDecimal_text d).2 (String.toList_inj.1 (htext.trans h))

end Decimal

/-! ## Any double -/

/-- The steps lead to the text that is shown. -/
theorem trimmedText_eq_numberText (x : Float) (places : ℕ) :
    trimmedText x places = numberText x places := by
  rw [trimmedText, fixedChars, numberText]
  cases x.toModel.unpack with
  | notANumber => rfl
  | infinity s => cases s <;> rfl
  | zero s =>
    have hzero :
        (⟨s == .negative, 0, places⟩ : Decimal).value = (⟨false, 0, 0⟩ : Decimal).value := by
      simp [Decimal.value]
    simp only [Decimal.unsignZero_trimFraction_fixedChars, String.ofList_toList,
      Decimal.text_eq_of_value_eq hzero]
    decide +kernel
  | finite s m e hm =>
    have hvalue : (Decimal.rounded s m e places).value = (Decimal.ofBinary s m e places).value :=
      (Decimal.isNearestMultiple_rounded s m e places).unique
        (Decimal.isNearestMultiple_ofBinary s m e places)
    simp only [Decimal.unsignZero_trimFraction_fixedChars, String.ofList_toList,
      Decimal.text_eq_of_value_eq hvalue]

end PocketCalculator
