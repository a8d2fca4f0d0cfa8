/-!
# Keys of the keypad

A key is one of the ten digits, one of the four operators, `C` (clear) or `=` (evaluate). Every
key has a one-character label, and reading a label accepts exactly those sixteen.
-/

namespace PocketCalculator

/-! ## Digits -/

/-- A decimal digit, by its value. -/
abbrev Digit := Fin 10

namespace Digit

-- Named, so that a literal for a digit does not depend on what else is imported.
instance neZero : @NeZero Nat Zero.ofOfNat0 10 := Nat.instNeZeroSucc

def toChar (d : Digit) : Char := Char.ofNat (48 + d.val)

/-- Only the ten ASCII digits are read; digits of other scripts are not. -/
def ofChar? (c : Char) : Option Digit :=
  if h : 48 ≤ c.toNat ∧ c.toNat < 58 then some ⟨c.toNat - 48, by omega⟩ else none

@[simp] theorem ofChar?_toChar (d : Digit) : ofChar? d.toChar = some d := by
  revert d; decide

theorem toChar_injective : Function.Injective toChar := by
  intro d e h
  have hread := congrArg ofChar? h
  simpa using hread

theorem toChar_of_ofChar? {c : Char} {d : Digit} (h : ofChar? c = some d) : d.toChar = c := by
  unfold ofChar? at h
  split at h
  · obtain rfl := Option.some.inj h
    simp only [toChar]
    rw [show 48 + (c.toNat - 48) = c.toNat by omega, Char.ofNat_toNat]
  · cases h

theorem mapM_ofChar?_map_toChar (ds : List Digit) :
    (ds.map toChar).mapM ofChar? = some ds := by
  induction ds with
  | nil => rfl
  | cons d r ih => simp [List.mapM_cons, ih]

theorem map_toChar_of_mapM_ofChar? {s : List Char} {ds : List Digit}
    (h : s.mapM ofChar? = some ds) : ds.map toChar = s := by
  induction s generalizing ds with
  | nil => simp_all
  | cons c r ih =>
    simp only [List.mapM_cons, Option.bind_eq_bind, Option.bind_eq_some_iff] at h
    obtain ⟨d, hd, es, he, h⟩ := h
    obtain rfl : d :: es = ds := Option.some.inj h
    simp [toChar_of_ofChar? hd, ih he]

end Digit

/-! ## Operators -/

inductive Operator where
  | add
  | sub
  | mul
  | div
deriving DecidableEq, Repr

namespace Operator

def symbol : Operator → Char
  | .add => '+'
  | .sub => '-'
  | .mul => '*'
  | .div => '/'

def ofChar? : Char → Option Operator
  | '+' => some .add
  | '-' => some .sub
  | '*' => some .mul
  | '/' => some .div
  | _ => none

/-- Products and quotients bind tighter than sums and differences. -/
def precedence : Operator → Nat
  | .add | .sub => 1
  | .mul | .div => 2

def text (o : Operator) : String := String.singleton o.symbol

def ofText? (s : String) : Option Operator :=
  match s.toList with
  | [c] => ofChar? c
  | _ => none

@[simp] theorem ofChar?_symbol (o : Operator) : ofChar? o.symbol = some o := by
  cases o <;> rfl

theorem symbol_of_ofChar? {c : Char} {o : Operator} (h : ofChar? c = some o) : o.symbol = c := by
  unfold ofChar? at h
  split at h <;> simp_all [symbol, eq_comm]

@[simp] theorem ofText?_text (o : Operator) : ofText? o.text = some o := by
  simp [ofText?, text]

theorem text_of_ofText? {s : String} {o : Operator} (h : ofText? s = some o) : o.text = s := by
  unfold ofText? at h
  split at h
  · rename_i c hc
    rw [text, symbol_of_ofChar? h, ← String.toList_inj, hc]
    simp
  · cases h

end Operator

/-- No character is both a digit and an operator. -/
theorem Digit.ofChar?_operator (o : Operator) : Digit.ofChar? o.symbol = none := by
  cases o <;> decide

/-! ## Keys -/

inductive Key where
  | digit (d : Digit)
  | operator (o : Operator)
  | clear
  | evaluate
deriving DecidableEq, Repr

namespace Key

def symbol : Key → Char
  | .digit d => d.toChar
  | .operator o => o.symbol
  | .clear => 'C'
  | .evaluate => '='

def label (k : Key) : String := String.singleton k.symbol

def ofChar? (c : Char) : Option Key :=
  if c = 'C' then some .clear
  else if c = '=' then some .evaluate
  else match Operator.ofChar? c with
    | some o => some (.operator o)
    | none => (Digit.ofChar? c).map .digit

/-- Labels are case-sensitive and one character long. -/
def ofLabel? (s : String) : Option Key :=
  match s.toList with
  | [c] => ofChar? c
  | _ => none

@[simp] theorem ofChar?_symbol (k : Key) : ofChar? k.symbol = some k := by
  cases k with
  | digit d => revert d; decide
  | operator o => cases o <;> decide
  | clear => rfl
  | evaluate => rfl

theorem symbol_of_ofChar? {c : Char} {k : Key} (h : ofChar? c = some k) : k.symbol = c := by
  unfold ofChar? at h
  split at h
  · obtain rfl := Option.some.inj h; simp_all [symbol]
  · split at h
    · obtain rfl := Option.some.inj h; simp_all [symbol]
    · split at h
      · rename_i o ho
        obtain rfl := Option.some.inj h
        exact Operator.symbol_of_ofChar? ho
      · obtain ⟨d, hd, rfl⟩ := Option.map_eq_some_iff.1 h
        exact Digit.toChar_of_ofChar? hd

@[simp] theorem ofLabel?_label (k : Key) : ofLabel? k.label = some k := by
  simp [ofLabel?, label]

theorem label_of_ofLabel? {s : String} {k : Key} (h : ofLabel? s = some k) : k.label = s := by
  unfold ofLabel? at h
  split at h
  · rename_i c hc
    rw [label, symbol_of_ofChar? h, ← String.toList_inj, hc]
    simp
  · cases h

/-- The four rows of the keypad, top to bottom. -/
def rows : List (List Key) :=
  [[.digit 7, .digit 8, .digit 9, .operator .div],
   [.digit 4, .digit 5, .digit 6, .operator .mul],
   [.digit 1, .digit 2, .digit 3, .operator .sub],
   [.clear, .digit 0, .evaluate, .operator .add]]

theorem mem_rows (k : Key) : k ∈ rows.flatten := by
  cases k with
  | digit d => revert d; decide
  | operator o => cases o <;> decide
  | clear => decide
  | evaluate => decide

end Key

end PocketCalculator
