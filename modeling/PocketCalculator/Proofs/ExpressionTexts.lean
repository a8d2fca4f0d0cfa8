import Mathlib.Data.List.Basic
import PocketCalculator.Proofs.TokenRows

/-!
# Texts that read as expressions

A text is blanks in front and then words, each with blanks behind it, and it can be taken apart in
this way only once. It reads as an expression if the words are numerals and operators in turn, a
numeral first and a numeral last. Otherwise the first word of the wrong kind is reported, and a
missing numeral at the end only if there is none. Main statement: `readTokens_layout`.

## Main definitions

* `Layout` — a text taken apart into words and the blanks around them.
* `IsExpressionRow` — the grammar of the words.
* `ReadsByGrammar` — what reading a text with given words is expected to give.
-/

namespace PocketCalculator

/-! ## Layouts -/

def IsGap (s : List Char) : Prop := ∀ c ∈ s, isBlank c = true

/-- Words, each with the blanks behind it. Only behind the last word they may be missing. -/
def AreSpaced : List (List Char × List Char) → Prop
  | [] => True
  | (w, g) :: r => IsWord w ∧ IsGap g ∧ (r ≠ [] → g ≠ []) ∧ AreSpaced r

structure Layout where
  front : List Char
  spaced : List (List Char × List Char)
  isGap_front : IsGap front
  areSpaced : AreSpaced spaced

def spacedChars (ps : List (List Char × List Char)) : List Char := ps.flatMap fun p => p.1 ++ p.2

namespace Layout

def chars (l : Layout) : List Char := l.front ++ spacedChars l.spaced

def tokens (l : Layout) : List String := l.spaced.map fun p => String.ofList p.1

end Layout

theorem spacedChars_cons (w g : List Char) (ps : List (List Char × List Char)) :
    spacedChars ((w, g) :: ps) = w ++ (g ++ spacedChars ps) := by
  simp [spacedChars]

theorem exists_layout (s : List Char) : ∃ l : Layout, l.chars = s := by
  induction s with
  | nil => exact ⟨⟨[], [], by simp [IsGap], trivial⟩, rfl⟩
  | cons c s ih =>
    obtain ⟨⟨front, ps, hfront, hps⟩, rfl⟩ := ih
    cases hc : isBlank c with
    | true => exact ⟨⟨c :: front, ps, List.forall_mem_cons.2 ⟨hc, hfront⟩, hps⟩, rfl⟩
    | false =>
      -- The character begins a word of its own unless it touches the first one.
      have hnew : IsWord [c] := ⟨by simp, by simpa using hc⟩
      match front, ps, hfront, hps with
      | [], [], _, _ => exact ⟨⟨[], [([c], [])], by simp [IsGap], hnew, by simp [IsGap], by simp,
          trivial⟩, rfl⟩
      | [], (w, g) :: ps, _, ⟨hw, hg, hsep, hps⟩ =>
        have hword : IsWord (c :: w) := ⟨by simp, List.forall_mem_cons.2 ⟨hc, hw.2⟩⟩
        exact ⟨⟨[], (c :: w, g) :: ps, by simp [IsGap], hword, hg, hsep, hps⟩, rfl⟩
      | b :: front, ps, hfront, hps =>
        exact ⟨⟨[], ([c], b :: front) :: ps, by simp [IsGap], hnew, hfront, by simp, hps⟩,
          by simp [Layout.chars, spacedChars]⟩

/-- Where a run of one kind of characters ends can be seen if what follows does not continue it. -/
theorem run_append_inj {p : Char → Bool} {a a' b b' : List Char} (ha : ∀ c ∈ a, p c = true)
    (ha' : ∀ c ∈ a', p c = true) (hb : ∀ c ∈ b.head?, p c = false)
    (hb' : ∀ c ∈ b'.head?, p c = false) (h : a ++ b = a' ++ b') : a = a' ∧ b = b' := by
  have hrun (a b : List Char) (ha : ∀ c ∈ a, p c = true) (hb : ∀ c ∈ b.head?, p c = false) :
      (a ++ b).takeWhile p = a := by
    rw [List.takeWhile_append_of_pos ha]
    cases b with
    | nil => simp
    | cons c b => simp [hb c rfl]
  have heq : a = a' := by rw [← hrun a b ha hb, h, hrun a' b' ha' hb']
  subst heq
  exact ⟨rfl, List.append_cancel_left h⟩

theorem head?_spacedChars {ps : List (List Char × List Char)} (h : AreSpaced ps) :
    ∀ c ∈ (spacedChars ps).head?, isBlank c = false := by
  match ps, h with
  | [], _ => simp [spacedChars]
  | (w, g) :: ps, ⟨⟨hne, hw⟩, _⟩ =>
    obtain ⟨b, w, rfl⟩ := List.exists_cons_of_ne_nil hne
    rw [spacedChars_cons]
    rintro c hc
    obtain rfl : b = c := Option.some.inj hc
    exact hw b List.mem_cons_self

/-- Behind a word there is nothing, or a blank. -/
theorem head?_gap_append {g : List Char} {ps : List (List Char × List Char)} (hg : IsGap g)
    (hsep : ps ≠ [] → g ≠ []) : ∀ c ∈ (g ++ spacedChars ps).head?, (!isBlank c) = false := by
  cases g with
  | cons b g =>
    rintro c hc
    obtain rfl : b = c := Option.some.inj hc
    simp [hg b List.mem_cons_self]
  | nil =>
    obtain rfl : ps = [] := by
      by_contra hne
      exact hsep hne rfl
    simp [spacedChars]

theorem spacedChars_inj {ps qs : List (List Char × List Char)} (hps : AreSpaced ps)
    (hqs : AreSpaced qs) (h : spacedChars ps = spacedChars qs) : ps = qs := by
  induction ps generalizing qs with
  | nil =>
    match qs, hqs with
    | [], _ => rfl
    | (w, g) :: qs, ⟨⟨hne, _⟩, _⟩ =>
      rw [spacedChars_cons] at h
      exact absurd (List.append_eq_nil_iff.1 h.symm).1 hne
  | cons p ps ih =>
    obtain ⟨w, g⟩ := p
    obtain ⟨hw, hg, hsep, hps⟩ := hps
    match qs, hqs with
    | [], _ =>
      rw [spacedChars_cons] at h
      exact absurd (List.append_eq_nil_iff.1 h).1 hw.1
    | (w', g') :: qs, ⟨hw', hg', hsep', hqs⟩ =>
      rw [spacedChars_cons, spacedChars_cons] at h
      obtain ⟨rfl, hrest⟩ := run_append_inj (p := (!isBlank ·)) (by simpa using hw.2)
        (by simpa using hw'.2) (head?_gap_append hg hsep) (head?_gap_append hg' hsep') h
      obtain ⟨rfl, hchars⟩ :=
        run_append_inj hg hg' (head?_spacedChars hps) (head?_spacedChars hqs) hrest
      rw [ih hps hqs hchars]

theorem Layout.chars_injective : Function.Injective Layout.chars := by
  rintro ⟨front, ps, hfront, hps⟩ ⟨front', qs, hfront', hqs⟩ h
  obtain ⟨rfl, hchars⟩ :=
    run_append_inj hfront hfront' (head?_spacedChars hps) (head?_spacedChars hqs) h
  obtain rfl := spacedChars_inj hps hqs hchars
  rfl

/-! ## The words of a layout -/

theorem words_gap_append {g : List Char} (hg : IsGap g) (s : List Char) :
    words (g ++ s) = words s := by
  induction g with
  | nil => rfl
  | cons c g ih =>
    obtain ⟨hc, hg⟩ := List.forall_mem_cons.1 hg
    rw [List.cons_append, words_cons_blank hc, ih hg]

theorem words_spacedChars {ps : List (List Char × List Char)} (h : AreSpaced ps) :
    words (spacedChars ps) = ps.map (·.1) := by
  induction ps with
  | nil => rfl
  | cons p ps ih =>
    obtain ⟨w, g⟩ := p
    obtain ⟨hw, hg, hsep, hps⟩ := h
    rw [spacedChars_cons, List.map_cons]
    cases g with
    | nil =>
      obtain rfl : ps = [] := by
        by_contra hne
        exact hsep hne rfl
      simpa [spacedChars] using words_of_isWord hw
    | cons c g =>
      obtain ⟨hc, hg⟩ := List.forall_mem_cons.1 hg
      rw [List.cons_append, words_append_blank hc, words_of_isWord hw, words_gap_append hg, ih hps]
      rfl

theorem Layout.words_chars (l : Layout) : (words l.chars).map String.ofList = l.tokens := by
  rw [chars, words_gap_append l.isGap_front, words_spacedChars l.areSpaced, List.map_map]
  rfl

/-! ## The grammar -/

/-- Any digits, whether or not zeros stand in front. -/
def IsNumeralText (s : String) : Prop := s ≠ "" ∧ ∀ c ∈ s.toList, c.isDigit = true

/-- Numerals belong at even places and operators at odd ones. -/
def Fits (place : ℕ) (t : String) : Prop :=
  if place % 2 = 0 then IsNumeralText t else IsOperatorText t

def IsExpressionRow (ts : List String) : Prop :=
  ts.length % 2 = 1 ∧ ∀ i t, ts[i]? = some t → Fits i t

def IsFirstMisfit (ts : List String) (place : ℕ) (t : String) : Prop :=
  ts[place]? = some t ∧ ¬Fits place t ∧ ∀ i u, i < place → ts[i]? = some u → Fits i u

/-- The report of a word of the wrong kind. -/
def misfitError (place : ℕ) (t : String) : ReadError :=
  if place % 2 = 0 then .expectedNumber place t else .expectedOperator place t

theorem isNumeralText_iff (s : String) : IsNumeralText s ↔ (Numeral.ofText? s).isSome = true := by
  constructor
  · rintro ⟨hne, hdigit⟩
    obtain ⟨n, rfl⟩ := exists_numeral_of_isDigit hne hdigit
    rw [Numeral.ofText?_text]
    rfl
  · intro h
    obtain ⟨n, hn⟩ := Option.isSome_iff_exists.1 h
    rw [← Numeral.text_of_ofText? hn]
    exact ⟨n.text_ne_empty, n.isDigit_of_mem_text⟩

theorem isOperatorText_iff_isSome (s : String) :
    IsOperatorText s ↔ (Operator.ofText? s).isSome = true := by
  rw [isOperatorText_iff]
  constructor
  · rintro ⟨o, rfl⟩
    rw [Operator.ofText?_text]
    rfl
  · intro h
    obtain ⟨o, ho⟩ := Option.isSome_iff_exists.1 h
    exact ⟨o, Operator.text_of_ofText? ho⟩

/-! ## The first word of the wrong kind -/

def fits (place : ℕ) (t : String) : Bool :=
  if place % 2 = 0 then (Numeral.ofText? t).isSome else (Operator.ofText? t).isSome

theorem fits_even {place : ℕ} (h : place % 2 = 0) (t : String) :
    fits place t = (Numeral.ofText? t).isSome := if_pos h

theorem fits_odd {place : ℕ} (h : place % 2 = 1) (t : String) :
    fits place t = (Operator.ofText? t).isSome := if_neg (by omega)

theorem misfitError_even {place : ℕ} (h : place % 2 = 0) (t : String) :
    misfitError place t = .expectedNumber place t := if_pos h

theorem misfitError_odd {place : ℕ} (h : place % 2 = 1) (t : String) :
    misfitError place t = .expectedOperator place t := if_neg (by omega)

theorem fits_iff (place : ℕ) (t : String) : fits place t = true ↔ Fits place t := by
  unfold fits Fits
  split
  · exact (isNumeralText_iff t).symm
  · exact (isOperatorText_iff_isSome t).symm

/-- The first word of the wrong kind, with its place, in a row that begins at `place`. -/
def firstMisfit (place : ℕ) (ts : List String) : Option (String × ℕ) :=
  (ts.zipIdx place).find? fun p => !fits p.2 p.1

theorem firstMisfit_cons (place : ℕ) (t : String) (ts : List String) :
    firstMisfit place (t :: ts) =
      if fits place t then firstMisfit (place + 1) ts else some (t, place) := by
  rw [firstMisfit, List.zipIdx_cons, List.find?_cons]
  cases fits place t <;> rfl

theorem firstMisfit_eq_some_iff (ts : List String) (t : String) (i : ℕ) :
    firstMisfit 0 ts = some (t, i) ↔ IsFirstMisfit ts i t := by
  rw [firstMisfit, List.find?_eq_some_iff_getElem]
  simp only [List.getElem_zipIdx, List.length_zipIdx, Bool.not_eq_true', Bool.eq_false_iff, ne_eq,
    fits_iff]
  constructor
  · rintro ⟨hnot, j, hj, heq, hbefore⟩
    obtain ⟨rfl, rfl⟩ := Prod.mk.inj heq
    rw [Nat.zero_add] at hnot ⊢
    refine ⟨List.getElem?_eq_getElem hj, hnot, ?_⟩
    intro k u hk hu
    obtain ⟨_, rfl⟩ := List.getElem?_eq_some_iff.1 hu
    simpa using hbefore k hk
  · rintro ⟨ht, hnot, hbefore⟩
    obtain ⟨hi, rfl⟩ := List.getElem?_eq_some_iff.1 ht
    refine ⟨hnot, i, hi, by rw [Nat.zero_add], ?_⟩
    intro j hj
    rw [Nat.zero_add, not_not]
    exact hbefore j _ hj (List.getElem?_eq_getElem _)

theorem firstMisfit_eq_none_iff (ts : List String) :
    firstMisfit 0 ts = none ↔ ∀ i t, ts[i]? = some t → Fits i t := by
  rw [firstMisfit, List.find?_eq_none]
  simp only [List.mem_zipIdx_iff_getElem?, Bool.not_eq_true', Bool.eq_false_iff, ne_eq,
    fits_iff, not_not, Prod.forall]
  exact forall_comm

/-- What reading words in turn comes to, from a given place on: the first misfit is reported, and
words in even number that all fit lack a numeral at the end. -/
def judged (text : String) (place : ℕ) (ts : List String) : Except ReadError (List String) :=
  match firstMisfit place ts with
  | some (t, i) => .error (misfitError i t)
  | none => if (place + ts.length) % 2 = 0 then .error (.operatorAtEnd text) else .ok ts

theorem judged_cons (text : String) (place : ℕ) (t : String) (ts : List String) :
    judged text place (t :: ts) =
      if fits place t then (judged text (place + 1) ts).map (t :: ·)
      else .error (misfitError place t) := by
  rw [judged, firstMisfit_cons]
  cases fits place t with
  | false => rfl
  | true =>
    have hlength : place + (t :: ts).length = place + 1 + ts.length := by
      rw [List.length_cons]
      omega
    simp only [if_true, hlength, judged]
    split
    · rfl
    · split <;> rfl

namespace Expression

/-- Reading pair by pair comes to the same as judging word by word. -/
theorem readTail_eq (text : String) {place : ℕ} (hplace : place % 2 = 1) (ts : List String) :
    (readTail text place ts).map (fun r => Token.texts (pairTokens r)) = judged text place ts := by
  fun_induction readTail text place ts with
  | case1 place =>
    have hodd : ¬(place + 0) % 2 = 0 := by omega
    exact (if_neg hodd).symm
  | case2 place t =>
    have hend : (place + 1 + 0) % 2 = 0 := by omega
    rw [judged_cons, fits_odd hplace, misfitError_odd hplace, readOperator]
    cases Operator.ofText? t with
    | none => rfl
    | some o =>
      show _ = (judged text (place + 1) []).map (t :: ·)
      rw [show judged text (place + 1) [] = .error (.operatorAtEnd text) from if_pos hend]
      rfl
  | case3 place t u ts ih =>
    have hnext : (place + 1) % 2 = 0 := by omega
    rw [judged_cons, judged_cons, fits_odd hplace, misfitError_odd hplace, fits_even hnext,
      misfitError_even hnext, readOperator, readNumeral, ← ih (by omega)]
    cases ho : Operator.ofText? t with
    | none => rfl
    | some o =>
      cases hn : Numeral.ofText? u with
      | none => rfl
      | some n =>
        rw [← Operator.text_of_ofText? ho, ← Numeral.text_of_ofText? hn]
        cases readTail text (place + 2) ts <;> rfl

theorem ofText_eq_judged {text : String} {ts : List String} (hne : ts ≠ [])
    (h : (words text.toList).map String.ofList = ts) :
    (ofText text).map (fun e => Token.texts e.tokens) = judged text 0 ts := by
  obtain ⟨t, ts, rfl⟩ := List.exists_cons_of_ne_nil hne
  simp only [ofText, h]
  rw [judged_cons, fits_even rfl, misfitError_even rfl, readNumeral, ← readTail_eq text rfl]
  cases hn : Numeral.ofText? t with
  | none => rfl
  | some n =>
    rw [← Numeral.text_of_ofText? hn]
    cases readTail text 1 ts <;> rfl

end Expression

/-! ## What reading comes to -/

/-- The tokens of a text that reads as an expression. -/
def readTokens (text : String) : Except EvaluationError (List String) :=
  (readExpression text).map fun e => Token.texts e.tokens

/-- What is expected of reading a text that has the words `ts`. -/
structure ReadsByGrammar (text : String) (ts : List String) : Prop where
  accepted : ∀ us, readTokens text = .ok us ↔ us = ts ∧ IsExpressionRow ts
  rejected : (∃ e, readTokens text = .error e) ↔ ¬IsExpressionRow ts
  empty : readTokens text = .error (.unreadable .empty) ↔ ts = []
  misfit : ∀ i t, readTokens text = .error (.unreadable (misfitError i t)) ↔ IsFirstMisfit ts i t
  unfinished : readTokens text = .error (.unreadable (.operatorAtEnd text)) ↔
    ts ≠ [] ∧ (∀ i t, ts[i]? = some t → Fits i t) ∧ ts.length % 2 = 0

theorem readTokens_eq (text : String) :
    readTokens text =
      ((Expression.ofText text).map fun e => Token.texts e.tokens).mapError .unreadable := by
  rw [readTokens, readExpression]
  cases Expression.ofText text <;> rfl

theorem readTokens_eq_ok_iff (text : String) (ts : List String) :
    readTokens text = .ok ts ↔ ∃ e, Expression.ofText text = .ok e ∧ Token.texts e.tokens = ts := by
  rw [readTokens_eq]
  cases Expression.ofText text with
  | error err => simp [Except.map, Except.mapError]
  | ok e => simp [Except.map, Except.mapError]

theorem misfitError_inj {i j : ℕ} {t u : String} (h : misfitError i t = misfitError j u) :
    i = j ∧ t = u := by
  unfold misfitError at h
  split at h <;> split at h <;> simp_all

theorem misfitError_ne_empty (i : ℕ) (t : String) : misfitError i t ≠ .empty := by
  unfold misfitError
  split <;> simp

theorem misfitError_ne_operatorAtEnd (i : ℕ) (t text : String) :
    misfitError i t ≠ .operatorAtEnd text := by
  unfold misfitError
  split <;> simp

theorem IsFirstMisfit.unique {ts : List String} {i j : ℕ} {t u : String}
    (h : IsFirstMisfit ts i t) (h' : IsFirstMisfit ts j u) : i = j ∧ t = u := by
  rw [← firstMisfit_eq_some_iff] at h h'
  have heq : some (t, i) = some (u, j) := h.symm.trans h'
  simpa [and_comm] using heq

theorem not_isExpressionRow_of_misfit {ts : List String} {i : ℕ} {t : String}
    (h : IsFirstMisfit ts i t) : ¬IsExpressionRow ts :=
  fun hrow => h.2.1 (hrow.2 i t h.1)

namespace ReadsByGrammar

variable {text : String} {ts : List String}

theorem of_empty (h : readTokens text = .error (.unreadable .empty)) : ReadsByGrammar text [] where
  accepted us := by simp [h, IsExpressionRow]
  rejected := by simp [h, IsExpressionRow]
  empty := by simp [h]
  misfit i t := by simp [h, IsFirstMisfit, (misfitError_ne_empty i t).symm]
  unfinished := by simp [h]

theorem of_misfit {i : ℕ} {t : String} (hmisfit : IsFirstMisfit ts i t)
    (h : readTokens text = .error (.unreadable (misfitError i t))) : ReadsByGrammar text ts where
  accepted us := by simp [h, not_isExpressionRow_of_misfit hmisfit]
  rejected := by simp [h, not_isExpressionRow_of_misfit hmisfit]
  empty := by
    have hne : ts ≠ [] := by
      rintro rfl
      cases hmisfit.1
    simp [h, misfitError_ne_empty, hne]
  misfit j u := by
    rw [h]
    constructor
    · intro herror
      have hsame := EvaluationError.unreadable.inj (Except.error.inj herror)
      obtain ⟨rfl, rfl⟩ := misfitError_inj hsame
      exact hmisfit
    · intro hmisfit'
      obtain ⟨rfl, rfl⟩ := hmisfit.unique hmisfit'
      rfl
  unfinished := by
    have hnot : ¬∀ j u, ts[j]? = some u → Fits j u := fun hfits => hmisfit.2.1 (hfits i t hmisfit.1)
    simp [h, misfitError_ne_operatorAtEnd, hnot]

theorem of_unfinished (hne : ts ≠ []) (hfits : ∀ i t, ts[i]? = some t → Fits i t)
    (heven : ts.length % 2 = 0) (h : readTokens text = .error (.unreadable (.operatorAtEnd text))) :
    ReadsByGrammar text ts where
  accepted us := by simp [h, IsExpressionRow, heven]
  rejected := by simp [h, IsExpressionRow, heven]
  empty := by simp [h, hne]
  misfit i t := by
    have hnot : ¬IsFirstMisfit ts i t := fun hmisfit => hmisfit.2.1 (hfits i t hmisfit.1)
    simp [h, hnot, (misfitError_ne_operatorAtEnd i t text).symm]
  unfinished := by simpa [h, hne, heven] using hfits

theorem of_row (hrow : IsExpressionRow ts) (h : readTokens text = .ok ts) :
    ReadsByGrammar text ts where
  accepted us := by simp [h, hrow, eq_comm]
  rejected := by simp [h, hrow]
  empty := by
    have hne : ts ≠ [] := by
      rintro rfl
      cases hrow.1
    simp [h, hne]
  misfit i t := by
    have hnot : ¬IsFirstMisfit ts i t := fun hmisfit => not_isExpressionRow_of_misfit hmisfit hrow
    simp [h, hnot]
  unfinished := by simp [h, hrow.1]

end ReadsByGrammar

theorem readsByGrammar_of_words {text : String} {ts : List String}
    (h : (words text.toList).map String.ofList = ts) : ReadsByGrammar text ts := by
  have hread := readTokens_eq text
  by_cases hne : ts = []
  · subst hne
    rw [Expression.ofText, h] at hread
    exact .of_empty hread
  · rw [Expression.ofText_eq_judged hne h, judged, Nat.zero_add] at hread
    cases hfirst : firstMisfit 0 ts with
    | some p =>
      obtain ⟨t, i⟩ := p
      rw [hfirst] at hread
      exact .of_misfit ((firstMisfit_eq_some_iff ts t i).1 hfirst) hread
    | none =>
      have hfits := (firstMisfit_eq_none_iff ts).1 hfirst
      rw [hfirst] at hread
      rcases Nat.mod_two_eq_zero_or_one ts.length with heven | hodd
      · simp only [heven, if_true] at hread
        exact .of_unfinished hne hfits heven hread
      · simp only [hodd, Nat.one_ne_zero, if_false] at hread
        exact .of_row ⟨hodd, hfits⟩ hread

/-! ## Words written as a text -/

theorem Fits.exists_token {place : ℕ} {t : String} (h : Fits place t) :
    ∃ k : Token, k.text = t := by
  unfold Fits at h
  split at h
  · obtain ⟨n, hn⟩ := exists_numeral_of_isDigit h.1 h.2
    exact ⟨.number n, hn⟩
  · obtain ⟨o, ho⟩ := (isOperatorText_iff t).1 h
    exact ⟨.operator o, ho⟩

theorem IsExpressionRow.exists_texts {ts : List String} (h : IsExpressionRow ts) :
    ∃ us, Token.texts us = ts := by
  have hrange : ts ∈ Set.range (List.map Token.text) := by
    rw [Set.range_list_map]
    intro t ht
    obtain ⟨i, hi⟩ := List.mem_iff_getElem?.1 ht
    exact (h.2 i t hi).exists_token
  exact hrange

/-- Words of the grammar with one space between neighbours are read back, and no others are. -/
theorem readTokens_joinTexts_iff (ts : List String) :
    readTokens (joinTexts ts) = .ok ts ↔ IsExpressionRow ts := by
  have haccepted (us : List Token) :
      readTokens (joinTexts (Token.texts us)) = .ok (Token.texts us) ↔
        IsExpressionRow (Token.texts us) := by
    rw [(readsByGrammar_of_words (words_joinTexts us)).accepted, and_iff_right rfl]
  constructor
  · intro h
    obtain ⟨e, -, rfl⟩ := (readTokens_eq_ok_iff _ _).1 h
    exact (haccepted e.tokens).1 h
  · intro h
    obtain ⟨us, rfl⟩ := h.exists_texts
    exact (haccepted us).2 h

theorem message_misfitError (place : ℕ) (t : String) :
    (misfitError place t).message =
      (if place % 2 = 0 then "Expected a number at position "
        else "Expected an operator at position ") ++ toString place ++ ", got " ++ quote t := by
  unfold misfitError
  split <;> rfl

/-- Every text can be taken apart into words in exactly one way, and its words decide what reading
it comes to. -/
theorem readTokens_layout (text : String) :
    (∀ ts, readTokens text = .ok ts ↔
      ∃ l : Layout, l.chars = text.toList ∧ l.tokens = ts ∧ IsExpressionRow ts) ∧
    (∃ l : Layout, (∀ l' : Layout, l'.chars = text.toList ↔ l' = l) ∧
      ReadsByGrammar text l.tokens) ∧
    (∀ ts, readTokens (joinTexts ts) = .ok ts ↔ IsExpressionRow ts) ∧
    (EvaluationError.unreadable .empty).message = "Empty expression" ∧
    (∀ place t, (EvaluationError.unreadable (misfitError place t)).message =
      (if place % 2 = 0 then "Expected a number at position "
        else "Expected an operator at position ") ++ toString place ++ ", got " ++ quote t) ∧
    (EvaluationError.unreadable (.operatorAtEnd text)).message =
      "Expression cannot end with an operator: " ++ quote text := by
  obtain ⟨l, hl⟩ := exists_layout text.toList
  have hunique (l' : Layout) : l'.chars = text.toList ↔ l' = l := by
    rw [← hl]
    exact Layout.chars_injective.eq_iff
  have hwords : (words text.toList).map String.ofList = l.tokens := by
    rw [← hl, l.words_chars]
  have hreads := readsByGrammar_of_words hwords
  refine ⟨?_, ⟨l, hunique, hreads⟩, readTokens_joinTexts_iff, rfl, message_misfitError, rfl⟩
  intro ts
  rw [hreads.accepted]
  constructor
  · rintro ⟨rfl, hrow⟩
    exact ⟨l, hl, rfl, hrow⟩
  · rintro ⟨l', hl', rfl, hrow⟩
    obtain rfl := (hunique l').1 hl'
    exact ⟨rfl, hrow⟩

end PocketCalculator
