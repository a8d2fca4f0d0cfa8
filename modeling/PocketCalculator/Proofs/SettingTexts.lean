import Mathlib.Data.List.Basic
import PocketCalculator.Settings

/-!
# Settings written to the environment

Settings that are written to the variables of the environment are read back as they were: a whole
number by its decimal text, the debug setting by any spelling of the four words that switch it on
or by a text that is none of them, and texts as they stand. Blanks around numbers and words do not
count. Main statement: `ofEnvironment_of_isWrittenTo`.

## Main definitions

* `WritesInteger` — the decimal text of an integer with blanks around it.
* `IsTruthyText` — the texts that switch the debug setting on.
* `Settings.IsWrittenTo` — variables that hold settings.
-/

namespace PocketCalculator

/-! ## Digits and blanks -/

/-- No blank is a digit, whatever the script. -/
theorem decimalDigit?_of_isBlank {c : Char} (h : isBlank c = true) : decimalDigit? c = none := by
  have hrows : zeroDigits.all (fun z =>
      (List.range 10).all fun i => !isBlank (Char.ofNat (z + i))) = true := by decide +kernel
  rw [decimalDigit?, Option.map_eq_none_iff, List.find?_eq_none]
  intro z hz hrow
  have hrow : z ≤ c.toNat ∧ c.toNat < z + 10 := by simpa using hrow
  have hdigit := List.all_eq_true.1 (List.all_eq_true.1 hrows z hz) (c.toNat - z)
    (List.mem_range.2 (by omega))
  rw [Nat.add_sub_cancel' hrow.1, Char.ofNat_toNat, h] at hdigit
  cases hdigit

theorem isDigitOrUnderscore_of_isIntegerBlank {c : Char} (h : isIntegerBlank c = true) :
    isDigitOrUnderscore c = false := by
  have hblank : isBlank c = true := (Bool.and_eq_true_iff.1 h).1
  have hunderscore : c ≠ '_' := by
    rintro rfl
    exact absurd hblank (by decide)
  simp [isDigitOrUnderscore, decimalDigit?_of_isBlank hblank, hunderscore]

theorem isDigitOrUnderscore_toChar (d : Digit) : isDigitOrUnderscore d.toChar = true := by
  simp [isDigitOrUnderscore, decimalDigit?_toChar]

theorem isIntegerBlank_of_mem_head? {ds : List Digit} (h : ds ≠ []) (s : List Char) :
    ∀ c ∈ (ds.map Digit.toChar ++ s).head?, isIntegerBlank c = false := by
  have hdigit : ∀ d : Digit, isIntegerBlank d.toChar = false := by decide
  obtain ⟨d, ds, rfl⟩ := List.exists_cons_of_ne_nil h
  simpa using hdigit d

/-! ## Reading integers -/

/-- Digits without underscores between them. -/
theorem groupedDigits?_map_toChar {ds : List Digit} (h : ds ≠ []) :
    groupedDigits? (ds.map Digit.toChar) = some ds := by
  have hunderscore : ∀ d : Digit, d.toChar ≠ '_' := by decide
  induction ds with
  | nil => exact absurd rfl h
  | cons d ds ih =>
    cases ds with
    | nil => simp [groupedDigits?, decimalDigit?_toChar]
    | cons e es =>
      have hrest := ih (List.cons_ne_nil e es)
      rw [List.map_cons] at hrest
      rw [List.map_cons, List.map_cons, groupedDigits?, hrest, decimalDigit?_toChar]
      · rfl
      · simp
      · simp [hunderscore]

/-- What stands behind a sign is read digit by digit up to the blanks at the end. -/
theorem readInteger_of_splitSign {text : String} {negative : Bool} {ds : List Digit}
    {behind : List Char}
    (hsplit : splitSign (text.toList.dropWhile isIntegerBlank) =
      (negative, ds.map Digit.toChar ++ behind))
    (hne : ds ≠ []) (hlength : ds.length ≤ maxIntegerDigits)
    (hbehind : ∀ c ∈ behind, isIntegerBlank c = true) :
    readInteger text = .ok (if negative then -(digitsValue ds : Int) else digitsValue ds) := by
  have hdigits : ∀ c ∈ ds.map Digit.toChar, isDigitOrUnderscore c = true :=
    List.forall_mem_map.2 fun d _ => isDigitOrUnderscore_toChar d
  have hend : ∀ c ∈ behind.head?, isDigitOrUnderscore c = false := fun c hc =>
    isDigitOrUnderscore_of_isIntegerBlank (hbehind c (List.mem_of_mem_head? hc))
  have htake : (ds.map Digit.toChar ++ behind).takeWhile isDigitOrUnderscore =
      ds.map Digit.toChar := by
    rw [List.takeWhile_append_of_pos hdigits]
    cases behind with
    | nil => simp
    | cons c r => simp [hend c rfl]
  simp only [readInteger, hsplit, htake, groupedDigits?_map_toChar hne,
    dropWhile_append_of_forall hdigits hend]
  rw [if_neg (Nat.not_lt.2 hlength), if_pos (List.all_eq_true.2 hbehind)]

/-- A text is the decimal text of an integer, with blanks around it. -/
def WritesInteger (text : String) (n : Int) : Prop :=
  ∃ before behind, text.toList = before ++ (intText n).toList ++ behind ∧
    (∀ c ∈ before, isIntegerBlank c = true) ∧ ∀ c ∈ behind, isIntegerBlank c = true

theorem toList_natText (m : Nat) :
    (natText m).toList = (Numeral.ofNat m).digits.map Digit.toChar := (Numeral.ofNat m).toList_text

theorem splitSign_digits {ds : List Digit} (h : ds ≠ []) (s : List Char) :
    splitSign (ds.map Digit.toChar ++ s) = (false, ds.map Digit.toChar ++ s) := by
  have hsign : ∀ d : Digit, d.toChar ≠ '-' ∧ d.toChar ≠ '+' := by decide
  obtain ⟨d, ds, rfl⟩ := List.exists_cons_of_ne_nil h
  obtain ⟨hminus, hplus⟩ := hsign d
  rw [List.map_cons, List.cons_append]
  unfold splitSign
  split <;> simp_all

/-- Printing an integer and reading it loses nothing but the blanks. -/
theorem readInteger_of_writes {text : String} {n : Int} (h : WritesInteger text n)
    (hlength : (natText n.natAbs).length ≤ maxIntegerDigits) : readInteger text = .ok n := by
  obtain ⟨before, behind, htext, hbefore, hbehind⟩ := h
  rw [List.append_assoc] at htext
  rw [← String.length_toList, toList_natText, List.length_map] at hlength
  have hvalue (m : Nat) : digitsValue (Numeral.ofNat m).digits = m := Numeral.ofNat_value m
  cases n with
  | ofNat m =>
    have hne := (Numeral.ofNat m).digits_ne_nil
    have hsplit : splitSign (text.toList.dropWhile isIntegerBlank) =
        (false, (Numeral.ofNat m).digits.map Digit.toChar ++ behind) := by
      rw [htext, intText, toList_natText,
        dropWhile_append_of_forall hbefore (isIntegerBlank_of_mem_head? hne behind),
        splitSign_digits hne]
    rw [readInteger_of_splitSign hsplit hne hlength hbehind, hvalue]
    rfl
  | negSucc m =>
    have hne := (Numeral.ofNat (m + 1)).digits_ne_nil
    have hminus : ∀ s : List Char, ∀ c ∈ ('-' :: s).head?, isIntegerBlank c = false := by
      rintro s c ⟨⟩
      decide
    have hsplit : splitSign (text.toList.dropWhile isIntegerBlank) =
        (true, (Numeral.ofNat (m + 1)).digits.map Digit.toChar ++ behind) := by
      rw [htext, intText, String.toList_append, toList_natText]
      exact congrArg splitSign (dropWhile_append_of_forall hbefore (hminus _))
    rw [readInteger_of_splitSign hsplit hne hlength hbehind, hvalue]
    rfl

/-! ## Words that switch on -/

/-- One of four words in any letter case, with blanks around it. -/
def IsTruthyText (text : String) : Prop :=
  ∃ before word behind, text.toList = before ++ word ++ behind ∧
    (∀ c ∈ before, isBlank c = true) ∧ (∀ c ∈ behind, isBlank c = true) ∧
    String.ofList (word.map Char.toLower) ∈ ["1", "true", "yes", "on"]

theorem toLower_of_isBlank {c : Char} (h : isBlank c = true) : c.toLower = c := by
  have hcode : c.toNat < 65 ∨ 90 < c.toNat := by
    simp only [isBlank, Bool.or_eq_true, Bool.and_eq_true, decide_eq_true_eq, beq_iff_eq] at h
    omega
  have hletter : ¬(c.val ≥ 'A'.val ∧ c.val ≤ 'Z'.val) := by
    rintro ⟨hlow, hhigh⟩
    have hlow : 65 ≤ c.toNat := UInt32.le_iff_toNat_le.1 hlow
    have hhigh : c.toNat ≤ 90 := UInt32.le_iff_toNat_le.1 hhigh
    omega
  exact dif_neg hletter

/-- There are no blanks in the words. -/
theorem isBlank_of_mem_word {word : List Char}
    (h : String.ofList (word.map Char.toLower) ∈ ["1", "true", "yes", "on"]) :
    ∀ c ∈ word, isBlank c = false := by
  have hwords : ["1", "true", "yes", "on"].all (·.toList.all (!isBlank ·)) = true := by decide
  intro c hc
  by_contra hblank
  rw [Bool.not_eq_false] at hblank
  have hmem : c.toLower ∈ (String.ofList (word.map Char.toLower)).toList := by
    rw [String.toList_ofList]
    exact List.mem_map_of_mem hc
  have hletter := List.all_eq_true.1 (List.all_eq_true.1 hwords _ h) _ hmem
  rw [toLower_of_isBlank hblank, hblank] at hletter
  cases hletter

theorem isTruthy_iff (text : String) : Settings.isTruthy text = true ↔ IsTruthyText text := by
  rw [Settings.isTruthy, decide_eq_true_iff]
  constructor
  · intro h
    obtain ⟨before, behind, htext, hbefore, hbehind⟩ := exists_append_trimEnds isBlank text.toList
    exact ⟨before, _, behind, htext, hbefore, hbehind, h⟩
  · rintro ⟨before, word, behind, htext, hbefore, hbehind, h⟩
    rwa [htext, trimEnds_append hbefore (isBlank_of_mem_word h) hbehind]

/-! ## The environment -/

namespace Settings

/-- The variables hold the settings, each in one of its spellings. -/
structure IsWrittenTo (s : Settings) (env : Environment) : Prop where
  host : env "KEYCALC_HOST" = some s.host
  port : ∃ text, env "KEYCALC_PORT" = some text ∧ WritesInteger text s.port
  debug : ∃ text, env "KEYCALC_DEBUG" = some text ∧ (s.debug = true ↔ IsTruthyText text)
  logLevel : env "KEYCALC_LOG_LEVEL" = some s.logLevel
  maxSessions : ∃ text, env "KEYCALC_MAX_SESSIONS" = some text ∧ WritesInteger text s.maxSessions

theorem integerVariable_of_some {env : Environment} {name text : String} {n : Int}
    (h : env name = some text) (hread : readInteger text = .ok n) (otherwise : Int) :
    integerVariable env name otherwise = .ok n := by
  rw [integerVariable, h]
  exact hread

/-- Settings are read back from the environment that they are written to, if the log level is in
capitals and the integers are not too long to be read. -/
theorem ofEnvironment_of_isWrittenTo {s : Settings} {env : Environment} (h : s.IsWrittenTo env)
    (hlevel : upperCase s.logLevel = s.logLevel)
    (hport : (natText s.port.natAbs).length ≤ maxIntegerDigits)
    (hsessions : (natText s.maxSessions.natAbs).length ≤ maxIntegerDigits) :
    ofEnvironment env = .ok s := by
  obtain ⟨host, port, debug, level, sessions⟩ := s
  obtain ⟨portText, hportEnv, hportText⟩ := h.port
  obtain ⟨debugText, hdebugEnv, hdebugText⟩ := h.debug
  obtain ⟨sessionsText, hsessionsEnv, hsessionsText⟩ := h.maxSessions
  have hport := integerVariable_of_some hportEnv (readInteger_of_writes hportText hport)
  have hsessions :=
    integerVariable_of_some hsessionsEnv (readInteger_of_writes hsessionsText hsessions)
  have hdebug : isTruthy debugText = debug := by
    rw [Bool.eq_iff_iff, isTruthy_iff]
    exact hdebugText.symm
  rw [ofEnvironment, hport, hsessions, h.host, hdebugEnv, h.logLevel]
  simp only [Option.getD_some, hdebug, hlevel]
  rfl

/-- A negative port, blanks of several kinds, and a word in mixed letters. -/
theorem ofEnvironment_of_isWrittenTo_blanks :
    let s : Settings := ⟨"", -8080, true, "DEBUG", 12⟩
    let env : Environment := fun name => [("KEYCALC_HOST", ""), ("KEYCALC_PORT", "\t-8080 \n"),
      ("KEYCALC_DEBUG", " YeS\r\n"), ("KEYCALC_LOG_LEVEL", "DEBUG"),
      ("KEYCALC_MAX_SESSIONS", "12\x0b")].lookup name
    s.IsWrittenTo env ∧ ofEnvironment env = .ok s := by
  intro s env
  have hport : WritesInteger "\t-8080 \n" (-8080) := by
    refine ⟨['\t'], [' ', '\n'], by decide +kernel, ?_, ?_⟩ <;>
      exact List.all_eq_true.1 (by decide)
  have hsessions : WritesInteger "12\x0b" 12 := by
    refine ⟨[], ['\x0b'], by decide +kernel, ?_, ?_⟩ <;>
      exact List.all_eq_true.1 (by decide)
  have hdebug : IsTruthyText " YeS\r\n" := (isTruthy_iff _).1 (by decide)
  have h : s.IsWrittenTo env :=
    ⟨rfl, ⟨_, rfl, hport⟩, ⟨_, rfl, iff_of_true rfl hdebug⟩, rfl, ⟨_, rfl, hsessions⟩⟩
  exact ⟨h, ofEnvironment_of_isWrittenTo h (by decide +kernel) (by decide +kernel)
    (by decide +kernel)⟩

end Settings

end PocketCalculator
