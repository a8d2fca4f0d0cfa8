import PocketCalculator.Numeral

/-!
# Natural numbers in base ten

Main statements: the digits of a number write that number (`ofNat_value`), and the first of them is
a zero only for zero itself.
-/

namespace PocketCalculator

/-- The digits of a number, most significant first, in front of `rest`. -/
def digitsOnto (n : Nat) (rest : List Digit) : List Digit :=
  let last : Digit := ⟨n % 10, Nat.mod_lt n (by decide)⟩
  if n < 10 then last :: rest else digitsOnto (n / 10) (last :: rest)
termination_by n
decreasing_by omega

theorem digitsOnto_ne_nil (n : Nat) (rest : List Digit) : digitsOnto n rest ≠ [] := by
  fun_induction digitsOnto n rest with
  | case1 => simp
  | case2 n rest last h ih => exact ih

/-- What the digits write: the number, followed by whatever stood behind. -/
theorem foldl_digitsOnto (n : Nat) (rest : List Digit) :
    (digitsOnto n rest).foldl (fun v d => 10 * v + d.val) 0 =
      rest.foldl (fun v d => 10 * v + d.val) n := by
  fun_induction digitsOnto n rest with
  | case1 n rest last h =>
    rw [List.foldl_cons, show 10 * 0 + last.val = n by show 10 * 0 + n % 10 = n; omega]
  | case2 n rest last h ih =>
    rw [ih, List.foldl_cons, show 10 * (n / 10) + last.val = n from Nat.div_add_mod n 10]

theorem digitsOnto_head_ne_zero (n : Nat) (h : n ≠ 0) (rest : List Digit) :
    ∀ d ∈ (digitsOnto n rest).head?, d ≠ 0 := by
  fun_induction digitsOnto n rest with
  | case1 n rest last hn =>
    intro d hd hz
    obtain rfl : last = d := Option.some.inj hd
    exact h ((Nat.mod_eq_of_lt hn).symm.trans (congrArg Fin.val hz))
  | case2 n rest last hn ih => exact ih (by omega)

namespace Numeral

/-- The one numeral for `n` that has no leading zero. -/
def ofNat (n : Nat) : Numeral := ⟨digitsOnto n [], digitsOnto_ne_nil n []⟩

@[simp] theorem ofNat_value (n : Nat) : (ofNat n).value = n := by
  simp [ofNat, value, digitsValue, foldl_digitsOnto]

theorem ofNat_injective {m n : Nat} (h : ofNat m = ofNat n) : m = n := by
  rw [← ofNat_value m, h, ofNat_value]

end Numeral

/-- Decimal text of a natural number. -/
def natText (n : Nat) : String := (Numeral.ofNat n).text

theorem natText_injective : Function.Injective natText := by
  intro m n h
  exact Numeral.ofNat_injective (Numeral.text_injective h)

/-- Decimal text of an integer, with `-` in front of a negative one. -/
def intText : Int → String
  | .ofNat n => natText n
  | .negSucc n => "-" ++ natText (n + 1)

end PocketCalculator
