import PocketCalculator.Key

/-!
# Numerals

A numeral is a nonempty row of digits, leading zeros included: `7`, `007` and `0` are three
numerals. Entering digits key by key keeps a numeral free of leading zeros.
-/

namespace PocketCalculator

/-! ## Leading marks -/

/-- Drops `z` from the front as long as something follows it, so that the last element stays even
when the whole list is made of `z`. -/
def stripLeading [DecidableEq α] (z : α) : List α → List α
  | a :: b :: r => if a = z then stripLeading z (b :: r) else a :: b :: r
  | s => s

theorem stripLeading_ne_nil [DecidableEq α] {z : α} {s : List α} (h : s ≠ []) :
    stripLeading z s ≠ [] := by
  fun_induction stripLeading z s with
  | case1 r a ih => exact ih (by simp)
  | case2 => exact h
  | case3 => exact h

/-- Dropping early does no harm: what was dropped before `t` was added would have been dropped
after it. -/
theorem stripLeading_append [DecidableEq α] (z : α) (s t : List α) :
    stripLeading z (stripLeading z s ++ t) = stripLeading z (s ++ t) := by
  fun_induction stripLeading z s with
  | case1 b r ih => simpa [stripLeading] using ih
  | case2 => rfl
  | case3 => rfl

/-- A mark is left in front only where nothing else is left. -/
theorem stripLeading_of_head? [DecidableEq α] {z : α} {s : List α}
    (h : (stripLeading z s).head? = some z) : stripLeading z s = [z] := by
  fun_induction stripLeading z s with
  | case1 r a ih => exact ih h
  | case2 a b r hne => exact absurd (Option.some.inj h) hne
  | case3 s hshort =>
    rcases s with _ | ⟨a, _ | ⟨b, r⟩⟩
    · cases h
    · rw [Option.some.inj h]
    · exact absurd rfl (hshort a b r)

theorem stripLeading_map [DecidableEq α] [DecidableEq β] {f : α → β} (hf : Function.Injective f)
    (z : α) (s : List α) : stripLeading (f z) (s.map f) = (stripLeading z s).map f := by
  fun_induction stripLeading z s with
  | case1 b r ih => simpa [stripLeading] using ih
  | case2 a b r h => simp [stripLeading, hf.eq_iff, h]
  | case3 s h =>
    rcases s with _ | ⟨a, _ | ⟨b, r⟩⟩
    · rfl
    · rfl
    · exact absurd rfl (h a b r)

/-- The text form: zeros in front of a text are dropped unless nothing else is left. Any text is
accepted, not only rows of digits. -/
def stripLeadingZeros (s : String) : String :=
  String.ofList (stripLeading '0' s.toList)

/-! ## Numerals -/

/-- The natural number that a row of digits writes in base ten. -/
def digitsValue (ds : List Digit) : Nat :=
  ds.foldl (fun v d => 10 * v + d.val) 0

theorem digitsValue_append_singleton (ds : List Digit) (d : Digit) :
    digitsValue (ds ++ [d]) = 10 * digitsValue ds + d.val := by
  simp [digitsValue]

/-- Zeros in front write nothing. -/
theorem digitsValue_stripLeading (ds : List Digit) :
    digitsValue (stripLeading 0 ds) = digitsValue ds := by
  fun_induction stripLeading 0 ds with
  | case1 b r ih => exact ih
  | case2 => rfl
  | case3 => rfl

/-- Nothing but zeros writes zero. -/
theorem digitsValue_eq_zero_iff (ds : List Digit) : digitsValue ds = 0 ↔ ∀ d ∈ ds, d = 0 := by
  have hfold (v : Nat) : ds.foldl (fun v d => 10 * v + d.val) v = 0 ↔ v = 0 ∧ ∀ d ∈ ds, d = 0 := by
    induction ds generalizing v with
    | nil => simp
    | cons d ds ih =>
      rw [List.foldl_cons, ih, List.forall_mem_cons, ← and_assoc, ← Fin.val_eq_zero_iff]
      exact and_congr_left' (by omega)
  rw [digitsValue, hfold]
  exact and_iff_right rfl

structure Numeral where
  digits : List Digit
  digits_ne_nil : digits ≠ []
deriving DecidableEq

namespace Numeral

def ofDigit (d : Digit) : Numeral := ⟨[d], by simp⟩

def zero : Numeral := ofDigit 0

def value (n : Numeral) : Nat := digitsValue n.digits

def text (n : Numeral) : String :=
  String.ofList (n.digits.map Digit.toChar)

theorem toList_text (n : Numeral) : n.text.toList = n.digits.map Digit.toChar :=
  String.toList_ofList

/-- Accepts nonempty rows of ASCII digits. -/
def ofChars? (s : List Char) : Option Numeral :=
  match s.mapM Digit.ofChar? with
  | some (d :: ds) => some ⟨d :: ds, by simp⟩
  | _ => none

def ofText? (s : String) : Option Numeral := ofChars? s.toList

@[simp] theorem ofText?_text (n : Numeral) : ofText? n.text = some n := by
  obtain ⟨ds, hd⟩ := n
  obtain ⟨d, r, rfl⟩ := List.exists_cons_of_ne_nil hd
  simp only [ofText?, text, String.toList_ofList, ofChars?, Digit.mapM_ofChar?_map_toChar]

theorem text_injective : Function.Injective text := by
  intro m n h
  have hread := congrArg ofText? h
  simpa using hread

theorem text_of_ofText? {s : String} {n : Numeral} (h : ofText? s = some n) : n.text = s := by
  unfold ofText? ofChars? at h
  split at h
  · rename_i hm
    obtain rfl := Option.some.inj h
    rw [text, Digit.map_toChar_of_mapM_ofChar? hm, String.ofList_toList]
  · cases h

def strip (n : Numeral) : Numeral :=
  ⟨stripLeading 0 n.digits, stripLeading_ne_nil n.digits_ne_nil⟩

/-- Digits and texts are stripped alike. -/
theorem text_strip (n : Numeral) : n.strip.text = stripLeadingZeros n.text := by
  have hmap := stripLeading_map Digit.toChar_injective 0 n.digits
  rw [stripLeadingZeros, text, text, String.toList_ofList]
  exact congrArg String.ofList hmap.symm

@[simp] theorem value_strip (n : Numeral) : n.strip.value = n.value :=
  digitsValue_stripLeading n.digits

/-- Without zeros in front, zero is written in one way only. -/
theorem value_eq_zero_iff_of_strip {n : Numeral} (h : n.strip = n) : n.value = 0 ↔ n = zero := by
  constructor
  · intro hvalue
    obtain ⟨d, r, hdigits⟩ := List.exists_cons_of_ne_nil n.strip.digits_ne_nil
    rw [← h, value, digitsValue_eq_zero_iff, hdigits, List.forall_mem_cons] at hvalue
    obtain ⟨rfl, -⟩ := hvalue
    have hhead : (stripLeading 0 n.digits).head? = some 0 := congrArg List.head? hdigits
    have hstrip : n.strip = zero := by
      simp [strip, stripLeading_of_head? hhead, zero, ofDigit]
    rw [← h, hstrip]
  · rintro rfl
    rfl

/-- The numeral after one more digit key. -/
def push (n : Numeral) (d : Digit) : Numeral :=
  strip ⟨n.digits ++ [d], by simp⟩

/-- Digit by digit or all at once, the zeros in front are lost. -/
theorem push_strip (n : Numeral) (d : Digit) :
    n.strip.push d = strip ⟨n.digits ++ [d], by simp⟩ := by
  simp [push, strip, stripLeading_append]

end Numeral

end PocketCalculator
