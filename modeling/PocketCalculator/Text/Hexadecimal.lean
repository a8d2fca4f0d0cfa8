/-!
# Hexadecimal digits

Digits beyond nine may be written in either case when they are read. Main statement: digits that
have been written read back as the number, cut to their width.
-/

namespace PocketCalculator

-- Powers of integers and naturals are the core library's, whatever else is imported.
attribute [local instance (high)] instPowNat

def hexDigitValue? (c : Char) : Option Nat :=
  if '0' ≤ c ∧ c ≤ '9' then some (c.toNat - 48)
  else if 'a' ≤ c ∧ c ≤ 'f' then some (c.toNat - 87)
  else if 'A' ≤ c ∧ c ≤ 'F' then some (c.toNat - 55)
  else none

/-- The number that digits write; what is no digit counts as zero. -/
def hexNumber (s : List Char) : Nat :=
  s.foldl (fun n c => 16 * n + (hexDigitValue? c).getD 0) 0

/-- The low `width` digits of `n`, in lower case. -/
def hexDigits : (width n : Nat) → List Char
  | 0, _ => []
  | w + 1, n => hexDigits w (n / 16) ++ [Nat.digitChar (n % 16)]

theorem length_hexDigits (width n : Nat) : (hexDigits width n).length = width := by
  induction width generalizing n with
  | zero => rfl
  | succ w ih => simp [hexDigits, ih]

theorem hexDigitValue?_digitChar : ∀ d < 16, hexDigitValue? (Nat.digitChar d) = some d := by
  decide

theorem hexNumber_append (s : List Char) (c : Char) :
    hexNumber (s ++ [c]) = 16 * hexNumber s + (hexDigitValue? c).getD 0 := by
  simp [hexNumber]

theorem hexNumber_hexDigits (width n : Nat) : hexNumber (hexDigits width n) = n % 16 ^ width := by
  induction width generalizing n with
  | zero => simp [hexDigits, hexNumber, Nat.mod_one]
  | succ w ih =>
    rw [hexDigits, hexNumber_append, ih, hexDigitValue?_digitChar _ (Nat.mod_lt n (by decide)),
      Nat.pow_succ, Nat.mul_comm (16 ^ w), Nat.mod_mul]
    simp only [Option.getD_some]
    omega

end PocketCalculator
