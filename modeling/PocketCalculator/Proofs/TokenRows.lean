import Mathlib.Data.Set.List
import PocketCalculator.Proofs.DisplayLines
import PocketCalculator.Proofs.TypedExpressions

/-!
# The rows of tokens that can be entered

The tokens on the display begin with a numeral, numerals and operators take turns, and no numeral
has a zero in front of other digits. Every row of this kind can be entered, and no other can. Main
statement: `tokens_pressAll_iff`, for the tokens of every state and for those of a finished
evaluation.

## Main definitions

* `IsPlainNumeral`, `IsOperatorText`, `IsTokenRow` — the grammar of the texts on the display.
* `Token.IsRow` — the same grammar for tokens that are read already.
-/

namespace PocketCalculator

/-! ## The grammar -/

/-- A numeral as it is shown: digits, and a zero in front of them only if it stands alone. -/
structure IsPlainNumeral (s : String) : Prop where
  ne_empty : s ≠ ""
  isDigit : ∀ c ∈ s.toList, c.isDigit = true
  zero : s = "0" ∨ s.toList.head? ≠ some '0'

def IsOperatorText (s : String) : Prop := s ∈ ["+", "-", "*", "/"]

/-- Numerals and operators in turn, a numeral first. An operator may be left at the end. -/
inductive IsTokenRow : List String → Prop
  | nil : IsTokenRow []
  | numeral {n : String} (hn : IsPlainNumeral n) : IsTokenRow [n]
  | operator {n o : String} {ts : List String} (hn : IsPlainNumeral n) (ho : IsOperatorText o)
      (hts : IsTokenRow ts) : IsTokenRow (n :: o :: ts)

/-- The rows of the grammar, read as tokens. A numeral is plain if stripping changes nothing. -/
inductive Token.IsRow : List Token → Prop
  | nil : IsRow []
  | numeral {n : Numeral} (hn : n.strip = n) : IsRow [.number n]
  | operator {n : Numeral} (hn : n.strip = n) (o : Operator) {ts : List Token} (hts : IsRow ts) :
      IsRow (.number n :: .operator o :: ts)

/-! ## Plain numerals -/

theorem stripLeading_of_head?_ne {α : Type} [DecidableEq α] {z : α} {s : List α}
    (h : s.head? ≠ some z) : stripLeading z s = s := by
  fun_induction stripLeading z s with
  | case1 r a ih => simp at h
  | case2 => rfl
  | case3 => rfl

namespace Numeral

theorem strip_strip (n : Numeral) : n.strip.strip = n.strip := by
  have h := stripLeading_append 0 n.digits []
  simpa [strip] using h

theorem strip_push (n : Numeral) (d : Digit) : (n.push d).strip = n.push d := strip_strip _

theorem strip_ofDigit (d : Digit) : (ofDigit d).strip = ofDigit d := rfl

theorem text_ne_empty (n : Numeral) : n.text ≠ "" := by
  intro hempty
  have hnil := n.toList_text
  rw [hempty] at hnil
  exact n.digits_ne_nil (List.map_eq_nil_iff.1 hnil.symm)

theorem isDigit_of_mem_text (n : Numeral) : ∀ c ∈ n.text.toList, c.isDigit = true := by
  have hdigit : ∀ d : Digit, d.toChar.isDigit = true := by decide
  rw [toList_text]
  intro c hc
  obtain ⟨d, -, rfl⟩ := List.mem_map.1 hc
  exact hdigit d

theorem isPlainNumeral_text {n : Numeral} (h : n.strip = n) : IsPlainNumeral n.text := by
  refine ⟨n.text_ne_empty, n.isDigit_of_mem_text, ?_⟩
  rw [or_iff_not_imp_right, not_not, toList_text, List.head?_map, Option.map_eq_some_iff]
  rintro ⟨d, hd, hzero⟩
  obtain rfl : d = 0 := Digit.toChar_injective hzero
  -- Nothing but the zero is left when a stripped numeral begins with one.
  have hdigits : n.digits = [0] := by
    rw [← h] at hd ⊢
    exact stripLeading_of_head? hd
  rw [text, hdigits]
  rfl

end Numeral

theorem Digit.exists_toChar_eq {c : Char} (h : c.isDigit = true) : ∃ d, Digit.toChar d = c := by
  have hc : 48 ≤ c.toNat ∧ c.toNat < 58 := by
    simp only [Char.isDigit, Bool.and_eq_true, decide_eq_true_eq, UInt32.le_iff_toNat_le] at h
    exact ⟨h.1, Nat.lt_succ_of_le h.2⟩
  exact ⟨_, Digit.toChar_of_ofChar? (dif_pos hc)⟩

theorem exists_numeral_of_isDigit {s : String} (hne : s ≠ "")
    (hdigit : ∀ c ∈ s.toList, c.isDigit = true) : ∃ n : Numeral, n.text = s := by
  obtain ⟨ds, hds⟩ : s.toList ∈ Set.range (List.map Digit.toChar) := by
    rw [Set.range_list_map]
    exact fun c hc => Digit.exists_toChar_eq (hdigit c hc)
  have hds_ne : ds ≠ [] := by
    rintro rfl
    exact hne (String.toList_inj.1 hds.symm)
  refine ⟨⟨ds, hds_ne⟩, ?_⟩
  rw [Numeral.text, hds, String.ofList_toList]

theorem IsPlainNumeral.exists_numeral {s : String} (h : IsPlainNumeral s) :
    ∃ n : Numeral, n.strip = n ∧ n.text = s := by
  obtain ⟨n, htext⟩ := exists_numeral_of_isDigit h.ne_empty h.isDigit
  refine ⟨n, ?_, htext⟩
  rcases h.zero with hzero | hhead
  · have hn : n = .zero := Numeral.text_injective (htext.trans hzero)
    rw [hn]
    rfl
  · have hfirst : n.digits.head? ≠ some 0 := by
      intro hd
      rw [← htext, Numeral.toList_text, List.head?_map, hd] at hhead
      exact hhead rfl
    simp [Numeral.strip, stripLeading_of_head?_ne hfirst]

theorem isOperatorText_iff (s : String) : IsOperatorText s ↔ ∃ o : Operator, o.text = s := by
  constructor
  · intro h
    simp only [IsOperatorText, List.mem_cons, List.not_mem_nil, or_false] at h
    rcases h with rfl | rfl | rfl | rfl
    · exact ⟨.add, rfl⟩
    · exact ⟨.sub, rfl⟩
    · exact ⟨.mul, rfl⟩
    · exact ⟨.div, rfl⟩
  · rintro ⟨o, rfl⟩
    cases o <;> simp [IsOperatorText] <;> decide

/-- The two grammars are one. -/
theorem isTokenRow_iff (ts : List String) :
    IsTokenRow ts ↔ ∃ us, Token.IsRow us ∧ Token.texts us = ts := by
  constructor
  · intro h
    induction h with
    | nil => exact ⟨[], .nil, rfl⟩
    | numeral hs =>
      obtain ⟨n, hn, rfl⟩ := hs.exists_numeral
      exact ⟨_, .numeral hn, rfl⟩
    | operator hs ho _ ih =>
      obtain ⟨n, hn, rfl⟩ := hs.exists_numeral
      obtain ⟨o, rfl⟩ := (isOperatorText_iff _).1 ho
      obtain ⟨us, hus, rfl⟩ := ih
      exact ⟨_, .operator hn o hus, rfl⟩
  · rintro ⟨us, hus, rfl⟩
    induction hus with
    | nil => exact .nil
    | numeral hn => exact .numeral (Numeral.isPlainNumeral_text hn)
    | operator hn o _ ih =>
      exact .operator (Numeral.isPlainNumeral_text hn) ((isOperatorText_iff _).2 ⟨o, rfl⟩) ih

/-! ## What is entered is a row -/

namespace Calculator

theorem enterDigit_cons_operator (d : Digit) (t : Token) (o : Operator) (ts : List Token) :
    enterDigit d (t :: .operator o :: ts) = t :: .operator o :: enterDigit d ts := by
  rcases ts.eq_nil_or_concat' with rfl | ⟨us, u, rfl⟩
  · rfl
  · rw [← List.cons_append, ← List.cons_append]
    cases u with
    | number n => rw [enterDigit_number, enterDigit_number]; rfl
    | operator p => rw [enterDigit_operator, enterDigit_operator]; rfl

theorem enterOperator_cons_operator (p : Operator) (t : Token) (o : Operator) {ts : List Token}
    (h : ts ≠ []) :
    enterOperator p (t :: .operator o :: ts) = t :: .operator o :: enterOperator p ts := by
  obtain ⟨us, u, rfl⟩ := ts.eq_nil_or_concat'.resolve_left h
  rw [← List.cons_append, ← List.cons_append]
  cases u with
  | number n => rw [enterOperator_number, enterOperator_number]; rfl
  | operator q => rw [enterOperator_operator, enterOperator_operator]; rfl

theorem isRow_enterDigit {ts : List Token} (h : Token.IsRow ts) (d : Digit) :
    Token.IsRow (enterDigit d ts) := by
  induction h with
  | nil => exact .numeral (Numeral.strip_ofDigit d)
  | @numeral n _ => exact .numeral (n.strip_push d)
  | operator hn o _ ih =>
    rw [enterDigit_cons_operator]
    exact .operator hn o ih

theorem isRow_enterOperator {ts : List Token} (h : Token.IsRow ts) (p : Operator) :
    Token.IsRow (enterOperator p ts) := by
  induction h with
  | nil =>
    rw [enterOperator, List.getLast?_nil]
    dsimp only
    split
    · exact .operator rfl .sub .nil
    · exact .nil
  | numeral hn => exact .operator hn p .nil
  | @operator n hn o ts hts ih =>
    by_cases hempty : ts = []
    · subst hempty
      exact .operator hn p .nil
    · rw [enterOperator_cons_operator p _ o hempty]
      exact .operator hn o ih

theorem isRow_press {c : Calculator} (h : Token.IsRow c.tokens) (k : Key) :
    Token.IsRow (c.press k).tokens := by
  have hpending : Token.IsRow c.pendingTokens := by
    unfold pendingTokens
    split
    · exact h
    · exact .nil
  cases k with
  | digit d => exact isRow_enterDigit hpending d
  | operator o => exact isRow_enterOperator hpending o
  | clear => exact .nil
  | evaluate =>
    rw [press, finish_tokens]
    exact h

theorem isRow_pressAll {c : Calculator} (h : Token.IsRow c.tokens) (ks : List Key) :
    Token.IsRow (c.pressAll ks).tokens := by
  induction ks generalizing c with
  | nil => exact h
  | cons k ks ih => exact ih (isRow_press h k)

end Calculator

/-! ## Every row can be entered -/

/-- A row is nothing, an expression, or an expression with an operator behind it. -/
theorem Token.IsRow.cases_expression {ts : List Token} (h : IsRow ts) :
    ts = [] ∨ ∃ e : Expression, e.strip = e ∧
      (ts = e.tokens ∨ ∃ o, ts = e.tokens ++ [.operator o]) := by
  induction h with
  | nil => exact .inl rfl
  | @numeral n hn => exact .inr ⟨⟨n, []⟩, by simp [Expression.strip, hn], .inl rfl⟩
  | @operator n hn o ts _ ih =>
    right
    rcases ih with rfl | ⟨e, he, hts⟩
    · exact ⟨⟨n, []⟩, by simp [Expression.strip, hn], .inr ⟨o, rfl⟩⟩
    · have hhead : e.head.strip = e.head := congrArg Expression.head he
      have htail : e.tail.map (fun p => (p.1, p.2.strip)) = e.tail := congrArg Expression.tail he
      refine ⟨⟨n, (o, e.head) :: e.tail⟩, ?_, ?_⟩
      · rw [Expression.strip, List.map_cons, htail, hn, hhead]
      · rcases hts with rfl | ⟨p, rfl⟩
        · exact .inl rfl
        · exact .inr ⟨p, rfl⟩

theorem Token.IsRow.strip_eq {ts : List Token} (h : IsRow ts) {n : Numeral}
    (hn : .number n ∈ ts) : n.strip = n := by
  induction h with
  | nil => cases hn
  | numeral hm =>
    obtain rfl := Token.number.inj (List.mem_singleton.1 hn)
    exact hm
  | operator hm o _ ih =>
    simp only [List.mem_cons, Token.number.injEq, reduceCtorEq, false_or] at hn
    rcases hn with rfl | hn
    · exact hm
    · exact ih hn

/-- What stands last and is written as a numeral is one. -/
theorem Token.endsWithNumber_of_texts {ts : List Token} {us : List String} {s : String}
    (h : texts ts = us ++ [s]) (hs : IsPlainNumeral s) : endsWithNumber ts = true := by
  obtain ⟨n, -, rfl⟩ := hs.exists_numeral
  obtain ⟨vs, ws, rfl, -, hw⟩ := List.map_eq_append_iff.1 h
  obtain ⟨t, rfl, ht⟩ := List.map_eq_singleton_iff.1 hw
  obtain rfl : t = .number n := text_injective ht
  exact endsWithNumber_number vs n

theorem Token.IsRow.exists_expression {ts : List Token} (h : IsRow ts)
    (hends : endsWithNumber ts = true) : ∃ e : Expression, e.strip = e ∧ ts = e.tokens := by
  rcases h.cases_expression with rfl | ⟨e, he, hts | ⟨o, rfl⟩⟩
  · cases hends
  · exact ⟨e, he, hts⟩
  · rw [endsWithNumber_operator] at hends
    cases hends

namespace Calculator

theorem pressAll_keys_of_strip {e : Expression} (h : e.strip = e) :
    initial.pressAll (e.tokens.flatMap Token.keys) = entered e.tokens := by
  rw [pressAll_keys, h]

theorem exists_pressAll_of_isRow {ts : List Token} (h : Token.IsRow ts) :
    ∃ ks, initial.pressAll ks = entered ts := by
  rcases h.cases_expression with rfl | ⟨e, he, rfl | ⟨o, rfl⟩⟩
  · exact ⟨[], rfl⟩
  · exact ⟨_, pressAll_keys_of_strip he⟩
  · obtain ⟨us, n, hlast⟩ := exists_concat_of_endsWithNumber e.endsWithNumber_tokens
    refine ⟨e.tokens.flatMap Token.keys ++ [.operator o], ?_⟩
    rw [pressAll_append, pressAll_keys_of_strip he, hlast, ← enterOperator_number]
    rfl

theorem exists_pressAll_finish {ts : List Token} (h : Token.IsRow ts) :
    ∃ ks, initial.pressAll ks = (entered ts).finish := by
  obtain ⟨ks, hks⟩ := exists_pressAll_of_isRow h
  refine ⟨ks ++ [.evaluate], ?_⟩
  rw [pressAll_append, hks]
  rfl

theorem isRow_initial_pressAll (ks : List Key) : Token.IsRow (initial.pressAll ks).tokens :=
  isRow_pressAll .nil ks

/-- The tokens that keys can put on the display are the rows of the grammar. With an evaluation
finished they are those rows that end in a numeral. -/
theorem tokens_pressAll_iff (ts : List String) :
    ((∃ ks, (initial.pressAll ks).display.tokens = ts) ↔ IsTokenRow ts) ∧
    ((∃ ks, (initial.pressAll ks).display.tokens = ts ∧ (initial.pressAll ks).mode = .evaluated) ↔
      IsTokenRow ts ∧ ∃ us n, ts = us ++ [n] ∧ IsPlainNumeral n) := by
  refine ⟨⟨?_, ?_⟩, ⟨?_, ?_⟩⟩
  · rintro ⟨ks, rfl⟩
    exact (isTokenRow_iff _).2 ⟨_, isRow_initial_pressAll ks, rfl⟩
  · intro h
    obtain ⟨us, hus, rfl⟩ := (isTokenRow_iff ts).1 h
    obtain ⟨ks, hks⟩ := exists_pressAll_of_isRow hus
    exact ⟨ks, by rw [hks]; rfl⟩
  · rintro ⟨ks, rfl, hmode⟩
    have hrow := isRow_initial_pressAll ks
    obtain ⟨hends, -⟩ := (settled_initial.pressAll ks).of_evaluated hmode
    obtain ⟨us, n, hlast⟩ := exists_concat_of_endsWithNumber hends
    have hn : n.strip = n := hrow.strip_eq (by simp [hlast])
    refine ⟨(isTokenRow_iff _).2 ⟨_, hrow, rfl⟩, Token.texts us, n.text, ?_,
      Numeral.isPlainNumeral_text hn⟩
    rw [display, hlast, Token.texts, List.map_append]
    rfl
  · rintro ⟨h, us, s, rfl, hs⟩
    obtain ⟨vs, hvs, htexts⟩ := (isTokenRow_iff _).1 h
    have hends : Token.endsWithNumber vs = true := Token.endsWithNumber_of_texts htexts hs
    obtain ⟨ks, hks⟩ := exists_pressAll_finish hvs
    refine ⟨ks, ?_, ?_⟩
    · rw [hks, display, finish_tokens]
      exact htexts
    · rw [hks, finish_of_endsWithNumber hends]

end Calculator

end PocketCalculator
