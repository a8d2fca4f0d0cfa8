import PocketCalculator.Proofs.FailureLabels
import PocketCalculator.Proofs.OptionGrammar

/-!
# Typing an expression

A text that reads as an expression can also be typed, key by key, on a new calculator. The blanks in
it name no keys, and zeros in front of a numeral are lost on the way. What the calculator shows in
the end is what the command line prints for the text. Main statement: `typed_ofText`.

## Main definitions

* `Token.keys` — the keys that write a token.
* `Expression.strip` — an expression without zeros in front of its numerals.
-/

namespace PocketCalculator

/-! ## Keys that write tokens -/

def Token.keys : Token → List Key
  | .number n => n.digits.map .digit
  | .operator o => [.operator o]

theorem Token.map_symbol_keys (t : Token) : t.keys.map Key.symbol = t.text.toList := by
  cases t with
  | number n =>
    rw [keys, List.map_map, text, Numeral.text, String.toList_ofList]
    rfl
  | operator o =>
    rw [text, Operator.text, String.toList_singleton]
    rfl

theorem Token.map_symbol_flatMap_keys (ts : List Token) :
    (ts.flatMap keys).map Key.symbol = ((texts ts).map String.toList).flatten := by
  rw [List.map_flatMap, texts, List.map_map, List.flatMap_def]
  exact congrArg List.flatten (List.map_congr_left fun t _ => t.map_symbol_keys)

namespace CommandLine

/-- Characters that are those of keys, blanks left out, name these keys. -/
theorem splitLabelChars_of_filter {s : List Char} {ks : List Key}
    (h : s.filter (!isBlank ·) = ks.map Key.symbol) : splitLabelChars s = .ok ks := by
  induction s generalizing ks with
  | nil =>
    obtain rfl := List.map_eq_nil_iff.1 h.symm
    rfl
  | cons c r ih =>
    rw [splitLabelChars]
    cases hc : isBlank c with
    | true =>
      rw [List.filter_cons_of_neg (by simp [hc])] at h
      exact ih h
    | false =>
      rw [List.filter_cons_of_pos (by simp [hc])] at h
      obtain ⟨k, ks, rfl, rfl, hr⟩ := List.map_eq_cons_iff.1 h.symm
      rw [Key.ofChar?_symbol, ih hr.symm]
      rfl

/-- The characters of a text that reads as an expression are those of its tokens, blanks left
out. -/
theorem filter_of_ofText {text : String} {e : Expression} (h : Expression.ofText text = .ok e) :
    text.toList.filter (!isBlank ·) = (e.tokens.flatMap Token.keys).map Key.symbol := by
  rw [Token.map_symbol_flatMap_keys, Expression.texts_of_ofText h, List.map_map, ← flatten_words]
  simp

theorem splitLabels_of_ofText {text : String} {e : Expression}
    (h : Expression.ofText text = .ok e) :
    splitLabels [text] = .ok (e.tokens.flatMap Token.keys) := by
  rw [splitLabels, List.flatMap_singleton]
  exact splitLabelChars_of_filter (filter_of_ofText h)

end CommandLine

/-! ## Zeros in front -/

def Token.strip : Token → Token
  | .number n => .number n.strip
  | .operator o => .operator o

theorem Token.text_strip (t : Token) : t.strip.text = stripLeadingZeros t.text := by
  cases t with
  | number n => exact n.text_strip
  | operator o => cases o <;> rfl

namespace Expression

def strip (e : Expression) : Expression := ⟨e.head.strip, e.tail.map fun p => (p.1, p.2.strip)⟩

theorem pairTokens_strip (r : List (Operator × Numeral)) :
    pairTokens (r.map fun p => (p.1, p.2.strip)) = (pairTokens r).map Token.strip := by
  induction r with
  | nil => rfl
  | cons p r ih =>
    rw [List.map_cons, pairTokens, ih]
    rfl

theorem tokens_strip (e : Expression) : e.strip.tokens = e.tokens.map Token.strip := by
  rw [tokens, strip, pairTokens_strip]
  rfl

theorem endsWithNumber_tokens (e : Expression) : Token.endsWithNumber e.tokens = true := by
  obtain ⟨n, r⟩ := e
  induction r generalizing n with
  | nil => rfl
  | cons p r ih =>
    have hlast : (tokens ⟨n, p :: r⟩).getLast? = (tokens ⟨p.2, r⟩).getLast? := by
      rw [tokens, pairTokens, List.getLast?_cons_cons, List.getLast?_cons_cons, tokens]
    rw [Token.endsWithNumber, hlast]
    exact ih p.2

theorem ofNumeral_strip (n : Numeral) : doubles.ofNumeral n.strip = doubles.ofNumeral n := by
  show n.strip.toFloat = n.toFloat
  rw [Numeral.toFloat, Numeral.value_strip, Numeral.toFloat]

/-- The value of an expression is made of the values of its numerals. -/
theorem value_strip (e : Expression) : e.strip.value = e.value := by
  have hadvance : (fun s (p : Operator × Numeral) => doubles.advance s (p.1, p.2.strip)) =
      doubles.advance := by
    funext s p
    simp only [Arithmetic.advance, Arithmetic.factor, ofNumeral_strip]
  rw [value, value, doubles.result_reversePolish, doubles.result_reversePolish, doubles.sum_terms,
    doubles.sum_terms, strip, List.foldlM_map, hadvance, ofNumeral_strip]

end Expression

/-! ## Typing -/

namespace Calculator

theorem press_digit_entered (ts : List Token) (d : Digit) :
    (entered ts).press (.digit d) = entered (enterDigit d ts) := rfl

theorem pressAll_digits_entered (ts : List Token) (n : Numeral) (ds : List Digit) :
    (entered (ts ++ [.number n.strip])).pressAll (ds.map .digit) =
      entered (ts ++ [.number (Numeral.strip ⟨n.digits ++ ds, by simp [n.digits_ne_nil]⟩)]) := by
  -- `n` is the numeral as it was typed, with all its zeros; the calculator holds it without them.
  induction ds generalizing n with
  | nil => simp [pressAll]
  | cons d ds ih =>
    have hpress := press_digit_entered (ts ++ [.number n.strip]) d
    rw [enterDigit_number, Numeral.push_strip] at hpress
    rw [List.map_cons, pressAll_cons, hpress]
    simpa using ih ⟨n.digits ++ [d], by simp⟩

/-- The digits of a numeral, pressed where a number is missing, enter the numeral without the zeros
in front. -/
theorem pressAll_numeral_entered {ts : List Token} (h : Token.endsWithNumber ts = false)
    (n : Numeral) :
    (entered ts).pressAll (Token.keys (.number n)) = entered (ts ++ [.number n.strip]) := by
  obtain ⟨ds, hds⟩ := n
  obtain ⟨d, ds, rfl⟩ := List.exists_cons_of_ne_nil hds
  have hpress := press_digit_entered ts d
  rw [enterDigit_of_not_endsWithNumber h] at hpress
  rw [Token.keys, List.map_cons, pressAll_cons, hpress]
  exact pressAll_digits_entered ts (.ofDigit d) ds

theorem pressAll_pairTokens_entered (ts : List Token) (m : Numeral)
    (r : List (Operator × Numeral)) :
    (entered (ts ++ [.number m])).pressAll ((Expression.pairTokens r).flatMap Token.keys) =
      entered (ts ++ [.number m] ++ (Expression.pairTokens r).map Token.strip) := by
  induction r generalizing ts m with
  | nil => simp [pressAll, Expression.pairTokens]
  | cons p r ih =>
    obtain ⟨o, n⟩ := p
    have hoperator : (entered (ts ++ [.number m])).pressAll (Token.keys (.operator o)) =
        entered (ts ++ [.number m] ++ [.operator o]) := by
      rw [← enterOperator_number]
      rfl
    have hnumeral := pressAll_numeral_entered
      (Token.endsWithNumber_operator (ts ++ [.number m]) o) n
    have hrest := ih (ts ++ [.number m] ++ [.operator o]) n.strip
    rw [Expression.pairTokens, List.flatMap_cons, List.flatMap_cons, pressAll_append,
      pressAll_append, hoperator, hnumeral, hrest]
    simp [Token.strip]

/-- The keys of an expression enter it, without the zeros in front of its numerals. -/
theorem pressAll_keys (e : Expression) :
    initial.pressAll (e.tokens.flatMap Token.keys) = entered e.strip.tokens := by
  have hhead : (entered []).pressAll (Token.keys (.number e.head)) =
      entered [.number e.head.strip] := pressAll_numeral_entered rfl e.head
  rw [Expression.tokens_strip, Expression.tokens, List.flatMap_cons, pressAll_append]
  show ((entered []).pressAll _).pressAll _ = _
  rw [hhead]
  exact pressAll_pairTokens_entered [] e.head.strip e.tail

end Calculator

/-! ## Divisions that a text mentions -/

/-- A division whose divisor is spelled with a zero in front. -/
def isSpelledZeroDivision (p : Operator × Numeral) : Bool :=
  p.1 == .div && p.2.digits.head? == some 0

theorem toList_joinTexts_tokens (n : Numeral) (r : List (Operator × Numeral)) :
    (joinTexts (Token.texts (Expression.tokens ⟨n, r⟩))).toList =
      n.text.toList ++ r.flatMap fun p => ' ' :: p.1.symbol :: ' ' :: p.2.text.toList := by
  have hspace : " ".toList = [' '] := by decide
  have htexts (m : Numeral) (r : List (Operator × Numeral)) :
      (Token.texts (Expression.tokens ⟨m, r⟩)).map String.toList =
        m.text.toList :: (Token.texts (Expression.pairTokens r)).map String.toList := rfl
  rw [joinTexts, String.toList_intercalate, hspace]
  induction r generalizing n with
  | nil => simp [Expression.tokens, Expression.pairTokens, Token.texts, Token.text]
  | cons p r ih =>
    obtain ⟨o, m⟩ := p
    have hpair : (Token.texts (Expression.pairTokens ((o, m) :: r))).map String.toList =
        [o.symbol] :: (Token.texts (Expression.tokens ⟨m, r⟩)).map String.toList := by
      rw [← String.toList_singleton]
      rfl
    rw [htexts, hpair, List.intercalate_cons_cons, htexts, List.intercalate_cons_cons, ← htexts,
      ih m]
    simp

theorem mentionsDivisionByZero_digits_append (ds : List Digit) (s : List Char) :
    mentionsDivisionByZero (ds.map Digit.toChar ++ s) = mentionsDivisionByZero s := by
  have hdigit : ∀ d : Digit, ('/' == d.toChar) = false := by decide
  induction ds with
  | nil => rfl
  | cons d ds ih => simp [mentionsDivisionByZero, List.isPrefixOf, hdigit, ih]

theorem mentionsDivisionByZero_operator (o : Operator) (d : Digit) (s : List Char) :
    mentionsDivisionByZero (' ' :: o.symbol :: ' ' :: d.toChar :: s) =
      ((o == .div && d == 0) || mentionsDivisionByZero (d.toChar :: s)) := by
  have hzero : ('0' == d.toChar) = (d == 0) := by revert d; decide
  rw [mentionsDivisionByZero, mentionsDivisionByZero, mentionsDivisionByZero]
  cases o <;> simp [List.isPrefixOf, Operator.symbol, hzero]

theorem mentionsDivisionByZero_tail (r : List (Operator × Numeral)) :
    mentionsDivisionByZero (r.flatMap fun p => ' ' :: p.1.symbol :: ' ' :: p.2.text.toList) =
      r.any isSpelledZeroDivision := by
  induction r with
  | nil => rfl
  | cons p r ih =>
    obtain ⟨o, n, hn⟩ := p
    obtain ⟨d, ds, rfl⟩ := List.exists_cons_of_ne_nil hn
    have htext : (Numeral.text ⟨d :: ds, hn⟩).toList = (d :: ds).map Digit.toChar :=
      String.toList_ofList
    have hdigits := mentionsDivisionByZero_digits_append (d :: ds)
      (r.flatMap fun p => ' ' :: p.1.symbol :: ' ' :: p.2.text.toList)
    rw [List.map_cons, List.cons_append, ih] at hdigits
    rw [List.flatMap_cons, List.any_cons, htext, List.map_cons, List.cons_append, List.cons_append,
      List.cons_append, List.cons_append, mentionsDivisionByZero_operator, hdigits]
    rfl

/-- The text of an expression mentions a division by zero where a divisor begins with a zero. -/
theorem mentionsDivisionByZero_joinTexts (e : Expression) :
    mentionsDivisionByZero (joinTexts (Token.texts e.tokens)).toList =
      e.tail.any isSpelledZeroDivision := by
  rw [toList_joinTexts_tokens, Numeral.text, String.toList_ofList,
    mentionsDivisionByZero_digits_append, mentionsDivisionByZero_tail]

/-- Without zeros in front, a divisor that begins with a zero is zero. -/
theorem isZeroDivision_of_strip {p : Operator × Numeral}
    (h : isSpelledZeroDivision (p.1, p.2.strip) = true) : isZeroDivision p = true := by
  obtain ⟨hdiv, hhead⟩ := Bool.and_eq_true_iff.1 h
  have hdigits : p.2.strip.digits = [0] := stripLeading_of_head? (eq_of_beq hhead)
  have hvalue : p.2.value = 0 := by
    rw [← p.2.value_strip, Numeral.value, hdigits]
    rfl
  rw [isZeroDivision, Bool.and_eq_true_iff, Numeral.toFloat, hvalue]
  exact ⟨hdiv, by decide⟩

/-! ## What is shown and what is printed -/

/-- The text of a typed expression mentions no division by zero but a real one, so the display
follows what is computed. -/
theorem followsCompute_strip (e : Expression) :
    FollowsCompute (joinTexts (Token.texts e.strip.tokens)) := by
  rw [followsCompute_iff (Expression.ofText_joinTexts e.strip)]
  rintro ⟨⟨v, hv⟩, hmentions⟩
  rw [← mentionsDivisionByZero_iff, mentionsDivisionByZero_joinTexts, List.any_eq_true] at hmentions
  -- What is mentioned is a real division by zero, so the failure is of that kind after all.
  obtain ⟨q, hq, hspelled⟩ := hmentions
  obtain ⟨p, hp, rfl⟩ := List.mem_map.1 hq
  obtain ⟨w, hw⟩ :=
    Expression.exists_value_of_isZeroDivision ⟨p, hp, isZeroDivision_of_strip hspelled⟩
  rw [compute_eq_of_ofText (Expression.ofText_joinTexts e.strip), Expression.value_strip, hw] at hv
  cases hv

theorem compute_strip {text : String} {e : Expression} (h : Expression.ofText text = .ok e) :
    compute (joinTexts (Token.texts e.strip.tokens)) = compute text := by
  rw [compute_eq_of_ofText (Expression.ofText_joinTexts e.strip), compute_eq_of_ofText h,
    Expression.value_strip]

theorem not_isPrefixOf_displayText (x : Float) :
    errorLabel.toList.isPrefixOf (displayText x).toList = false := by
  rw [Bool.eq_false_iff, ne_eq, List.isPrefixOf_iff_prefix]
  intro h
  have hletter : 'E' ∈ numberChars := displayText_subset x (h.subset (by decide))
  exact absurd hletter (by decide)

theorem isPrefixOf_failureLabel (text : String) (e : EvaluationError) :
    errorLabel.toList.isPrefixOf (failureLabel text e).toList = true := by
  unfold failureLabel
  split <;> decide

theorem isPrefixOf_evaluate_iff (text : String) :
    errorLabel.toList.isPrefixOf (evaluate text).toList = true ↔
      ∃ e, compute text = .error e := by
  cases hcompute : compute text with
  | ok v =>
    rw [evaluate_of_ok hcompute, not_isPrefixOf_displayText]
    simp
  | error e =>
    rw [evaluate_of_error hcompute, isPrefixOf_failureLabel]
    simp

theorem liveResult_tokens (e : Expression) :
    Calculator.liveResult e.tokens = evaluate (joinTexts (Token.texts e.tokens)) :=
  if_pos e.endsWithNumber_tokens

namespace CommandLine

/-- What is printed and how the program exits is decided by what is computed. -/
theorem runEval_congr {s t : String} (h : compute s = compute t) (level : LogLevel) :
    (runEval level s).stdout = (runEval level t).stdout ∧
      (runEval level s).exit = (runEval level t).exit := by
  rw [runEval, runEval, h]
  split <;> exact ⟨rfl, rfl⟩

theorem exit_runEval_iff (text : String) (level : LogLevel) :
    (runEval level text).exit = 1 ↔ ∃ e, compute text = .error e := by
  rw [runEval]
  cases compute text with
  | ok v => simp
  | error e => simp

/-! ## The command -/

theorem head?_ne_dash_of_ofText {text : String} {e : Expression}
    (h : Expression.ofText text = .ok e) : text.toList.head? ≠ some '-' := by
  have hdigit : ∀ d : Digit, d.toChar ≠ '-' := by decide
  intro hdash
  obtain ⟨r, hr⟩ := List.head?_eq_some_iff.1 hdash
  obtain ⟨d, ds, hds⟩ := List.exists_cons_of_ne_nil e.head.digits_ne_nil
  have hfilter := filter_of_ofText h
  rw [hr, List.filter_cons_of_pos (by decide), Expression.tokens, List.flatMap_cons, Token.keys,
    hds, List.map_cons, List.cons_append, List.map_cons] at hfilter
  exact hdigit d (List.cons.inj hfilter).1.symm

theorem read_eval_of_ofText {text : String} {e : Expression} (h : Expression.ofText text = .ok e) :
    Command.read .eval [text] = .ok (.eval text) := by
  have hoperand : evalGrammar.IsOperand text :=
    .inl fun hdashed => head?_ne_dash_of_ofText h hdashed.1
  have hscans : evalGrammar.Scans [text] [] [text] := .operand hoperand rfl .nil
  rw [Command.read, Grammar.options_of_scans Grammar.isWellFormed_eval hscans (by simp)]
  rfl

/-- An expression is no option, so that the command gets it as its operand. -/
theorem run_eval_of_ofText {text : String} {e : Expression} (h : Expression.ofText text = .ok e)
    {env : Environment} {s : Settings} {level : LogLevel}
    (henv : prepare env none = .ok (s, level)) :
    run env ["eval", text] = runEval level text :=
  run_of_read (readInvocation_name rfl [text]) henv (read_eval_of_ofText h)

end CommandLine

/-! ## Agreement -/

/-- What is shown is what an invocation prints, and an error shown is an error exit. -/
structure Shows (c : Calculator) (o : CommandLine.Outcome) : Prop where
  printed : o.stdout = [c.result]
  isError : c.display.isError = true ↔ o.exit = 1

theorem shows_entered_strip {text : String} {e : Expression} (h : Expression.ofText text = .ok e)
    (level : CommandLine.LogLevel) :
    Shows (Calculator.entered e.strip.tokens) (CommandLine.runEval level text) := by
  have hresult : (Calculator.entered e.strip.tokens).result =
      evaluate (joinTexts (Token.texts e.strip.tokens)) := liveResult_tokens e.strip
  obtain ⟨hstdout, hexit⟩ := CommandLine.runEval_congr (compute_strip h) level
  refine ⟨?_, ?_⟩
  · rw [← hstdout, (followsCompute_strip e).printed, hresult]
  · rw [← hexit, CommandLine.exit_runEval_iff, ← isPrefixOf_evaluate_iff, ← hresult]
    rfl

/-- The keys that a readable text names enter its tokens, each numeral without the zeros in front of
it, and the calculator then shows what the command line prints for the text. -/
theorem typed_ofText {text : String} {e : Expression} (h : Expression.ofText text = .ok e) :
    ∃ ks, CommandLine.splitLabels [text] = .ok ks ∧
      let c := Calculator.initial.pressAll ks
      Calculator.initial.pressLabels (ks.map Key.label) = (c, none) ∧
        c.tokens = e.tokens.map Token.strip ∧
        Token.texts e.tokens = (words text.toList).map String.ofList ∧
        c.display.tokens = (Token.texts e.tokens).map stripLeadingZeros ∧
        (∀ level, Shows c (CommandLine.runEval level text)) ∧
        ∀ env s level, CommandLine.prepare env none = .ok (s, level) →
          Shows c (CommandLine.run env ["eval", text]) := by
  refine ⟨e.tokens.flatMap Token.keys, CommandLine.splitLabels_of_ofText h, ?_⟩
  intro c
  have hc : c = Calculator.entered e.strip.tokens := Calculator.pressAll_keys e
  have hshows (level : CommandLine.LogLevel) : Shows c (CommandLine.runEval level text) := by
    rw [hc]
    exact shows_entered_strip h level
  have htokens : c.tokens = e.tokens.map Token.strip := by
    rw [hc, ← Expression.tokens_strip]
    rfl
  refine ⟨Calculator.pressLabels_labels _ _, htokens, Expression.texts_of_ofText h, ?_, hshows, ?_⟩
  · rw [Calculator.display, htokens, Token.texts, Token.texts, List.map_map, List.map_map]
    exact List.map_congr_left fun t _ => t.text_strip
  · intro env s level henv
    rw [CommandLine.run_eval_of_ofText h henv]
    exact hshows level

/-- Zeros in front of numerals, blanks of several kinds, and an environment without variables. -/
theorem typed_twelve_over_eight :
    let ks : List Key := [.digit 0, .digit 0, .digit 7, .operator .add, .digit 0, .digit 1,
      .digit 2, .operator .div, .digit 0, .digit 8]
    let c := Calculator.initial.pressAll ks
    CommandLine.splitLabels [" 007 +\t012 / 08\n"] = .ok ks ∧
      c.display.tokens = ["7", "+", "12", "/", "8"] ∧
      Shows c (CommandLine.run (fun _ => none) ["eval", " 007 +\t012 / 08\n"]) := by
  intro ks c
  let e : Expression :=
    ⟨⟨[0, 0, 7], by decide⟩, [(.add, ⟨[0, 1, 2], by decide⟩), (.div, ⟨[0, 8], by decide⟩)]⟩
  have h : Expression.ofText " 007 +\t012 / 08\n" = .ok e := by rfl
  have hsplit : CommandLine.splitLabels [" 007 +\t012 / 08\n"] = .ok ks := by rfl
  obtain ⟨ls, hls, -, -, -, hdisplay, -, hrun⟩ := typed_ofText h
  obtain rfl : ks = ls := Except.ok.inj (hsplit.symm.trans hls)
  have htexts : (Token.texts e.tokens).map stripLeadingZeros = ["7", "+", "12", "/", "8"] := by
    decide
  exact ⟨hls, hdisplay.trans htexts, hrun _ .default .warning (by decide +kernel)⟩

end PocketCalculator
