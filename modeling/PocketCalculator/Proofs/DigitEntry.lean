import PocketCalculator.Proofs.DecimalTexts
import PocketCalculator.Proofs.TokenRows

/-!
# Entering a number digit by digit

Zeros in front of a number are dropped after every digit, and not only when the number is complete.
The outcome is the same: the digits that are left write the same number without a zero in front of
them. In between, every digit turns the number that it continues into ten times that number and the
digit. Main statement: `stripLeadingZeros_digits`.

## Main definitions

* `Calculator.pendingNumber` — the number that the next digit continues.
* `Calculator.EntersDigits` — what pressing a row of digits comes to.
-/

namespace PocketCalculator

/-! ## Stripping -/

/-- Zeros that are dropped early would have been dropped later, whatever follows. -/
theorem stripLeadingZeros_append (s t : String) :
    stripLeadingZeros (stripLeadingZeros s ++ t) = stripLeadingZeros (s ++ t) := by
  have h := stripLeading_append '0' s.toList t.toList
  simpa [stripLeadingZeros] using congrArg String.ofList h

theorem stripLeadingZeros_idem (s : String) :
    stripLeadingZeros (stripLeadingZeros s) = stripLeadingZeros s := by
  simpa using stripLeadingZeros_append s ""

namespace Numeral

theorem charsValue_text (n : Numeral) : charsValue n.text.toList = n.value := by
  rw [toList_text, charsValue_digits, value]

theorem value_push (n : Numeral) (d : Digit) : (n.push d).value = 10 * n.value + d.val := by
  rw [push, value_strip, value, digitsValue_append_singleton, value]

end Numeral

/-! ## Digit keys -/

namespace Calculator

/-- The number that the next digit continues, and zero where a digit begins one. -/
def pendingNumber (c : Calculator) : ℕ :=
  charsValue ((Token.texts c.pendingTokens).getLast?.getD "").toList

theorem pendingNumber_of_number {c : Calculator} {ts : List Token} {n : Numeral}
    (h : c.pendingTokens = ts ++ [.number n]) : c.pendingNumber = n.value := by
  simp [pendingNumber, h, Token.texts, Token.text, n.charsValue_text]

theorem pendingNumber_of_not_endsWithNumber {c : Calculator}
    (h : Token.endsWithNumber c.pendingTokens = false) : c.pendingNumber = 0 := by
  rw [pendingNumber]
  rcases c.pendingTokens.eq_nil_or_concat' with hts | ⟨ts, t, hts⟩
  · rw [hts]
    rfl
  · cases t with
    | number n => simp [hts] at h
    | operator o => cases o <;> simp [hts, Token.texts, Token.text] <;> decide

/-- The step of every digit key, in any state. -/
theorem pendingNumber_press_digit (c : Calculator) (d : Digit) :
    (c.press (.digit d)).pendingNumber = 10 * c.pendingNumber + d.val := by
  have hpress : (c.press (.digit d)).pendingTokens = enterDigit d c.pendingTokens := rfl
  cases h : Token.endsWithNumber c.pendingTokens with
  | true =>
    obtain ⟨ts, n, hts⟩ := exists_concat_of_endsWithNumber h
    rw [hts, enterDigit_number] at hpress
    rw [pendingNumber_of_number hpress, pendingNumber_of_number hts, n.value_push]
  | false =>
    rw [enterDigit_of_not_endsWithNumber h] at hpress
    rw [pendingNumber_of_number hpress, pendingNumber_of_not_endsWithNumber h]
    simp [Numeral.value, Numeral.ofDigit, digitsValue]

/-- Where a number is missing, the digits of a numeral enter it without the zeros in front. -/
theorem pressAll_numeral {c : Calculator} (h : Token.endsWithNumber c.pendingTokens = false)
    (n : Numeral) :
    c.pressAll (n.digits.map .digit) = entered (c.pendingTokens ++ [.number n.strip]) := by
  rw [← pressAll_numeral_entered h n, Token.keys]
  -- The first digit sees no more of the state than the pending tokens.
  obtain ⟨d, ds, hds⟩ := List.exists_cons_of_ne_nil n.digits_ne_nil
  rw [hds]
  rfl

/-- Digits are pressed one after the other: all of them are taken, they enter one numeral without
zeros in front, and the number in it grows from zero, digit by digit. -/
structure EntersDigits (c : Calculator) (s : String) : Prop where
  taken : (c.pressLabels (s.toList.map String.singleton)).2 = none
  tokens : (c.pressLabels (s.toList.map String.singleton)).1.display.tokens =
    Token.texts c.pendingTokens ++ [stripLeadingZeros s]
  begins : c.pendingNumber = 0
  continues : ∀ before d behind, s.toList = before ++ d :: behind →
    (c.pressLabels ((before ++ [d]).map String.singleton)).1.pendingNumber =
      10 * (c.pressLabels (before.map String.singleton)).1.pendingNumber +
        (d.toNat - '0'.toNat)

theorem pressLabels_digits (c : Calculator) (ds : List Digit) :
    c.pressLabels ((ds.map Digit.toChar).map String.singleton) =
      (c.pressAll (ds.map .digit), none) := by
  rw [← pressLabels_labels, List.map_map, List.map_map]
  rfl

theorem entersDigits_text {c : Calculator} (h : Token.endsWithNumber c.pendingTokens = false)
    (n : Numeral) : c.EntersDigits n.text := by
  have hvalue : ∀ d : Digit, d.toChar.toNat - '0'.toNat = d.val := by decide
  have hpressed := c.pressLabels_digits n.digits
  rw [← n.toList_text] at hpressed
  refine ⟨by rw [hpressed], ?_, pendingNumber_of_not_endsWithNumber h, ?_⟩
  · rw [hpressed, pressAll_numeral h, ← n.text_strip]
    exact List.map_append
  · intro before d behind hs
    rw [n.toList_text] at hs
    obtain ⟨bs, ds, -, rfl, hds⟩ := List.map_eq_append_iff.1 hs
    obtain ⟨e, es, rfl, rfl, -⟩ := List.map_eq_cons_iff.1 hds
    have hnext := c.pressLabels_digits (bs ++ [e])
    rw [List.map_append, List.map_singleton] at hnext
    rw [hnext, c.pressLabels_digits bs, List.map_append, pressAll_append, hvalue]
    exact pendingNumber_press_digit _ e

end Calculator

/-- Zeros in front of a row of digits may be dropped after every digit or at the end: what is left
is the canonical text of the number that the digits write. -/
theorem stripLeadingZeros_digits {s : String} (hne : s ≠ "")
    (hdigit : ∀ c ∈ s.toList, c.isDigit = true) :
    (IsPlainNumeral (stripLeadingZeros s) ∧
      charsValue (stripLeadingZeros s).toList = charsValue s.toList ∧
      stripLeadingZeros s = natText (charsValue s.toList)) ∧
    stripLeadingZeros (stripLeadingZeros s) = stripLeadingZeros s ∧
    (∀ t, stripLeadingZeros (stripLeadingZeros s ++ t) = stripLeadingZeros (s ++ t)) ∧
    ∀ c : Calculator, Token.endsWithNumber c.pendingTokens = false → c.EntersDigits s := by
  obtain ⟨n, rfl⟩ := exists_numeral_of_isDigit hne hdigit
  refine ⟨⟨?_, ?_, ?_⟩, stripLeadingZeros_idem _, stripLeadingZeros_append _, ?_⟩
  · rw [← n.text_strip]
    exact Numeral.isPlainNumeral_text n.strip_strip
  · rw [← n.text_strip, Numeral.charsValue_text, Numeral.charsValue_text, n.value_strip]
  · rw [n.charsValue_text]
    exact stripLeadingZeros_text n
  · intro c h
    exact Calculator.entersDigits_text h n

/-- Zeros before, inside and after a number, behind an operator. -/
theorem stripLeadingZeros_digits_twenty :
    let c := Calculator.initial.pressAll [.digit 3, .operator .sub]
    stripLeadingZeros "0020" = natText 20 ∧
      (c.pressLabels ["0", "0", "2", "0"]).1.display.tokens = ["3", "-", "20"] ∧
      (c.pressLabels ["0", "0", "2"]).1.pendingNumber = 2 ∧
      (c.pressLabels ["0", "0", "2", "0"]).1.pendingNumber = 20 := by
  intro c
  have hdigit : "0020".toList.all Char.isDigit = true := by decide
  obtain ⟨⟨-, -, htext⟩, -, -, henters⟩ :=
    stripLeadingZeros_digits (by decide) (List.all_eq_true.1 hdigit)
  have hvalue : charsValue "0020".toList = 20 := by decide
  have h : c.EntersDigits "0020" := henters c rfl
  have hzeros : (c.pressLabels ["0", "0"]).1.pendingNumber = 0 := by decide +kernel
  have htwo : (c.pressLabels ["0", "0", "2"]).1.pendingNumber =
      10 * (c.pressLabels ["0", "0"]).1.pendingNumber + 2 :=
    h.continues ['0', '0'] '2' ['0'] rfl
  have htwenty : (c.pressLabels ["0", "0", "2", "0"]).1.pendingNumber =
      10 * (c.pressLabels ["0", "0", "2"]).1.pendingNumber + 0 :=
    h.continues ['0', '0', '2'] '0' [] rfl
  rw [hzeros] at htwo
  rw [htwo] at htwenty
  have htokens : Token.texts c.pendingTokens ++ [stripLeadingZeros "0020"] = ["3", "-", "20"] := by
    decide +kernel
  exact ⟨htext.trans (congrArg natText hvalue), h.tokens.trans htokens, htwo, htwenty⟩

end PocketCalculator
