import PocketCalculator.CommandLine.Program
import PocketCalculator.Proofs.JsonLines
import PocketCalculator.Proofs.UnknownLabels

/-!
# Traces of pressed keys

The command that presses keys prints the display after each of them, or only the last one. Both are
JSON, a line for each display, and they agree: without its key the last line of a trace is the line
that is printed without a trace. How the keys are spread over the arguments does not matter. A
character of no key stops the command before it prints anything. Main statement: `runKeys_traces`.

## Main definitions

* `CommandLine.labelChars` — the characters of arguments that are read as labels.
* `CommandLine.PrintsStates` — what is printed if all of them are on the keypad.
-/

namespace PocketCalculator

/-! ## Messages -/

theorem escapeCharacter_notMem_hexDigits (width n : Nat) :
    escapeCharacter ∉ hexDigits width n := by
  intro h
  exact absurd (isLineChar_of_mem_hexDigits h) (by decide)

theorem escapeCharacter_notMem_escapeChar {q : Char} (h : q ≠ escapeCharacter) (c : Char) :
    escapeCharacter ∉ escapeChar q c := by
  have hletters : escapeCharacter ∉ ['\\', 't', 'n', 'r', 'x', 'u', 'U'] := by decide
  have hprintable : isPrintable escapeCharacter = false := by decide
  unfold escapeChar
  grind [escapeCharacter_notMem_hexDigits]

/-- Quoting leaves no escape character, so that nothing of a quoted text is lost in a message. -/
theorem escapeCharacter_notMem_quote (s : String) : escapeCharacter ∉ (quote s).toList := by
  have hquote : enclosingQuote s.toList ≠ escapeCharacter := by
    unfold enclosingQuote
    split <;> decide
  rw [quote, String.toList_ofList, quoteChars]
  grind [escapeCharacter_notMem_escapeChar]

namespace CommandLine

/-! ## The characters of labels -/

/-- The characters of arguments, blanks left out. -/
def labelChars (labels : List String) : List Char :=
  (labels.flatMap String.toList).filter (!isBlank ·)

theorem splitLabelChars_filter (cs : List Char) :
    splitLabelChars (cs.filter (!isBlank ·)) = splitLabelChars cs := by
  induction cs with
  | nil => rfl
  | cons c cs ih =>
    cases hc : isBlank c with
    | true => simp [splitLabelChars, hc, ih]
    | false => simp [splitLabelChars, hc, ih]

theorem splitLabels_eq (labels : List String) :
    splitLabels labels = splitLabelChars (labelChars labels) :=
  (splitLabelChars_filter _).symm

theorem runKeys_congr {labels others : List String} (h : labelChars others = labelChars labels)
    (level : LogLevel) (trace : Bool) :
    runKeys level others trace = runKeys level labels trace := by
  simp only [runKeys, splitLabels_eq, h]

theorem isBlank_symbol (k : Key) : isBlank k.symbol = false := by
  cases k with
  | digit d => revert d; decide
  | operator o => cases o <;> rfl
  | clear => rfl
  | evaluate => rfl

theorem splitLabelChars_append (ks : List Key) (cs : List Char) :
    splitLabelChars (ks.map Key.symbol ++ cs) = (splitLabelChars cs).map (ks ++ ·) := by
  induction ks with
  | nil => cases hcs : splitLabelChars cs <;> simp [hcs, Except.map]
  | cons k ks ih =>
    rw [List.map_cons, List.cons_append, splitLabelChars, isBlank_symbol, Key.ofChar?_symbol, ih]
    cases hcs : splitLabelChars cs <;> simp [Except.map]

theorem exists_keys {cs : List Char} (h : ∀ c ∈ cs, c ∈ keyChars) :
    ∃ ks : List Key, cs = ks.map Key.symbol := by
  refine exists_map_of_forall Key.symbol_of_ofChar? fun c hc hnone => ?_
  obtain ⟨k, rfl⟩ := (mem_keyChars_iff c).1 (h c hc)
  simp at hnone

theorem splitLabels_of_unknown {labels : List String} {before behind : List Char} {c : Char}
    (h : labelChars labels = before ++ c :: behind) (hbefore : ∀ b ∈ before, b ∈ keyChars)
    (hc : c ∉ keyChars) : splitLabels labels = .error (.unknownLabel c) := by
  obtain ⟨ks, rfl⟩ := exists_keys hbefore
  have hblank : isBlank c = false := by
    have hmem : c ∈ labelChars labels := by simp [h]
    simpa using (List.mem_filter.1 hmem).2
  have hnone : Key.ofChar? c = none := by
    refine Option.eq_none_iff_forall_ne_some.2 fun k hk => hc ?_
    exact (mem_keyChars_iff c).2 ⟨k, Key.symbol_of_ofChar? hk⟩
  rw [splitLabels_eq, h, splitLabelChars_append, splitLabelChars, hblank, hnone]
  rfl

theorem usage_unknownLabel (c : Char) :
    Outcome.usage (.unknownLabel c) =
      ⟨2, [], ["Error: Invalid value for LABELS: unknown key " ++ quote (String.singleton c)],
        none, none⟩ := by
  let line := "Error: Invalid value for LABELS: unknown key " ++ quote (String.singleton c)
  have hline : UsageError.line (.unknownLabel c) = line := by
    show "Error: " ++ ("Invalid value for LABELS: " ++ ("unknown key " ++ _)) = _
    rw [← String.append_assoc, ← String.append_assoc]
    rfl
  have hescape : escapeCharacter ∉ line.toList := by
    have hfixed : escapeCharacter ∉ "Error: Invalid value for LABELS: unknown key ".toList := by
      decide
    rw [String.toList_append, List.mem_append]
    exact not_or.2 ⟨hfixed, escapeCharacter_notMem_quote _⟩
  rw [Outcome.usage, hline, plainText, dropSequences_of_notMem hescape, String.ofList_toList]

/-! ## The lines of a trace -/

/-- The line for a key and the display behind it. -/
def traceLine (k : Key) (c : Calculator) : String :=
  (Json.object (("key", .string k.label) :: c.display.members)).write

theorem length_traceLines (c : Calculator) (ks : List Key) :
    (traceLines c ks).length = ks.length := by
  induction ks generalizing c with
  | nil => rfl
  | cons k ks ih => rw [traceLines, List.length_cons, ih, List.length_cons]

/-- The display behind a key is that of the keys up to it. -/
theorem getElem?_traceLines (c : Calculator) (ks : List Key) (i : Nat) :
    (traceLines c ks)[i]? = ks[i]?.map fun k => traceLine k (c.pressAll (ks.take (i + 1))) := by
  induction ks generalizing c i with
  | nil => rfl
  | cons k ks ih =>
    cases i with
    | zero => rfl
    | succ i => exact ih (c.press k) i

theorem isLine_of_mem_traceLines {c : Calculator} {ks : List Key} {line : String}
    (h : line ∈ traceLines c ks) : IsLine line := by
  obtain ⟨i, hi⟩ := List.mem_iff_getElem?.1 h
  rw [getElem?_traceLines, Option.map_eq_some_iff] at hi
  obtain ⟨k, -, rfl⟩ := hi
  exact Json.isLine_write _

/-- An object without its first member, as it is written. -/
theorem write_object_cons (m n : String × Json) (ms : List (String × Json)) :
    ∃ rest, (Json.object (n :: ms)).write = "\x7b" ++ rest ∧
      (Json.object (m :: n :: ms)).write =
        "\x7b" ++ Json.writeString m.1 ++ ": " ++ m.2.write ++ ", " ++ rest := by
  refine ⟨", ".intercalate (Json.writeMembers (n :: ms)) ++ "\x7d", ?_, ?_⟩
  · rw [Json.write, String.append_assoc]
  · rw [Json.write, Json.writeMembers, Json.writeMembers, String.intercalate_cons_cons]
    simp only [String.append_assoc]

theorem writeString_label (k : Key) : Json.writeString k.label = "\"" ++ k.label ++ "\"" := by
  cases k with
  | digit d => revert d; decide
  | operator o => cases o <;> decide
  | clear => decide
  | evaluate => decide

theorem getLast?_traceLines (c : Calculator) (ks : List Key) (k : Key) :
    (traceLines c (ks ++ [k])).getLast? = some (traceLine k (c.pressAll (ks ++ [k]))) := by
  have htake : (ks ++ [k]).take (ks.length + 1) = ks ++ [k] := List.take_of_length_le (by simp)
  rw [List.getLast?_eq_getElem?, length_traceLines, getElem?_traceLines]
  simp [htake]

/-- A line of a trace is the line of the display with the key in front of it. -/
theorem exists_traceLine_eq (k : Key) (c : Calculator) :
    ∃ rest, stateLine c = "\x7b" ++ rest ∧
      traceLine k c = "\x7b\"key\": \"" ++ k.label ++ "\", " ++ rest := by
  obtain ⟨rest, hstate, htrace⟩ :=
    write_object_cons ("key", .string k.label) ("accumulator", .string c.display.accumulator) _
  refine ⟨rest, hstate, htrace.trans ?_⟩
  have hkey : Json.writeString "key" = "\"key\"" := by decide
  have hopening : "\x7b\"key\": \"" = "\x7b" ++ "\"key\"" ++ ": " ++ "\"" := by decide
  have hclosing : "\", " = "\"" ++ ", " := by decide
  rw [hkey, Json.write, writeString_label, hopening, hclosing]
  simp only [String.append_assoc]

/-! ## What is printed -/

/-- Characters pressed one after the other on a new calculator. -/
def pressChars (cs : List Char) : Except Calculator.UnknownKey Calculator :=
  (cs.map String.singleton).foldlM Calculator.pressLabel .initial

theorem pressChars_symbols (ks : List Key) :
    pressChars (ks.map Key.symbol) = .ok (Calculator.initial.pressAll ks) := by
  rw [pressChars, List.map_map]
  exact Calculator.initial.foldlM_pressLabel_labels ks

/-- What is printed for labels that are all on the keypad. -/
structure PrintsStates (level : LogLevel) (labels : List String) : Prop where
  exit : ∀ trace, (runKeys level labels trace).exit = 0
  isLine : ∀ trace, ∀ line ∈ (runKeys level labels trace).stdout, IsLine line
  /-- A trace has a line for each character: the character and the display up to it. -/
  length : (runKeys level labels true).stdout.length = (labelChars labels).length
  traced : ∀ i c, (labelChars labels)[i]? = some c →
    ∃ s, pressChars ((labelChars labels).take (i + 1)) = .ok s ∧
      (runKeys level labels true).stdout[i]? =
        some (Json.object (("key", .string (String.singleton c)) :: s.display.members)).write
  plain : ∃ s, pressChars (labelChars labels) = .ok s ∧
    (runKeys level labels false).stdout = [(Json.object s.display.members).write]
  /-- Without its key the last line of a trace is the line that is printed otherwise. -/
  agrees : ∀ c, (labelChars labels).getLast? = some c → ∃ rest,
    (runKeys level labels true).stdout.getLast? =
        some ("\x7b\"key\": \"" ++ String.singleton c ++ "\", " ++ rest) ∧
      (runKeys level labels false).stdout = ["\x7b" ++ rest]

theorem printsStates_of_keys {level : LogLevel} {labels : List String} {ks : List Key}
    (h : labelChars labels = ks.map Key.symbol) : PrintsStates level labels := by
  have hsplit : splitLabels labels = .ok ks := splitLabelChars_of_filter h
  have htrace : (runKeys level labels true).stdout = traceLines .initial ks := by
    rw [runKeys, hsplit]
    rfl
  have hplain :
      (runKeys level labels false).stdout = [stateLine (Calculator.initial.pressAll ks)] := by
    rw [runKeys, hsplit]
    rfl
  refine ⟨?_, ?_, ?_, ?_, ?_, ?_⟩
  · intro trace
    rw [runKeys, hsplit]
  · intro trace line hline
    cases trace with
    | true =>
      rw [htrace] at hline
      exact isLine_of_mem_traceLines hline
    | false =>
      rw [hplain, List.mem_singleton] at hline
      rw [hline]
      exact Json.isLine_write _
  · rw [htrace, length_traceLines, h, List.length_map]
  · intro i c hc
    rw [h, List.getElem?_map, Option.map_eq_some_iff] at hc
    obtain ⟨k, hk, rfl⟩ := hc
    refine ⟨_, by rw [h, ← List.map_take, pressChars_symbols], ?_⟩
    rw [htrace, getElem?_traceLines, hk]
    rfl
  · exact ⟨_, by rw [h, pressChars_symbols], hplain⟩
  · intro c hc
    rw [h, List.getLast?_map, Option.map_eq_some_iff] at hc
    obtain ⟨k, hk, rfl⟩ := hc
    obtain ⟨us, rfl⟩ := List.getLast?_eq_some_iff.1 hk
    obtain ⟨rest, hstate, hline⟩ := exists_traceLine_eq k (Calculator.initial.pressAll (us ++ [k]))
    refine ⟨rest, ?_, by rw [hplain, hstate]⟩
    rw [htrace, getLast?_traceLines, hline]
    rfl

/-- With and without a trace the command prints the states of one row of keys, whatever the
arguments that it is spread over. With a character that belongs to no key it prints nothing, and the
error names the first of them. -/
theorem runKeys_traces (level : LogLevel) (labels : List String) :
    ((∀ c ∈ labelChars labels, c ∈ keyChars) → PrintsStates level labels) ∧
    (∀ before c behind, labelChars labels = before ++ c :: behind →
      (∀ b ∈ before, b ∈ keyChars) → c ∉ keyChars → ∀ trace,
        runKeys level labels trace =
          ⟨2, [], ["Error: Invalid value for LABELS: unknown key " ++ quote (String.singleton c)],
            none, none⟩) ∧
    ∀ others, labelChars others = labelChars labels → ∀ trace,
      runKeys level others trace = runKeys level labels trace := by
  refine ⟨?_, ?_, fun others h trace => runKeys_congr h level trace⟩
  · intro hkeys
    obtain ⟨ks, hks⟩ := exists_keys hkeys
    exact printsStates_of_keys hks
  · intro before c behind h hbefore hc trace
    rw [runKeys, splitLabels_of_unknown h hbefore hc]
    exact usage_unknownLabel c

/-- Two ways of spreading three keys over arguments, the second line of their trace, and a
character that is no key among them. -/
theorem runKeys_traces_two_plus_three :
    (∀ trace, runKeys .warning ["2 ", "+3"] trace = runKeys .warning ["2+", "\t", "3"] trace) ∧
    (runKeys .warning ["2+", "\t", "3"] true).stdout[1]? =
      some ("\x7b\"key\": \"+\", \"accumulator\": \"2 +\", \"result\": \"\", " ++
        "\"tokens\": [\"2\", \"+\"], \"mode\": \"entering\", \"is_error\": false\x7d") ∧
    runKeys .warning ["2 ", "+x3"] true =
      ⟨2, [], ["Error: Invalid value for LABELS: unknown key 'x'"], none, none⟩ := by
  obtain ⟨hstates, -, hsame⟩ := runKeys_traces .warning ["2+", "\t", "3"]
  refine ⟨hsame ["2 ", "+3"] (by decide), ?_, ?_⟩
  · have hkeys : (labelChars ["2+", "\t", "3"]).all (· ∈ keyChars) = true := by decide
    have hprints := hstates fun c hc => of_decide_eq_true (List.all_eq_true.1 hkeys c hc)
    obtain ⟨s, hs, hline⟩ := hprints.traced 1 '+' (by decide)
    obtain rfl := Except.ok.inj hs
    rw [hline]
    decide +kernel
  · obtain ⟨-, hunknown, -⟩ := runKeys_traces .warning ["2 ", "+x3"]
    have hbefore : ∀ b ∈ ['2', '+'], b ∈ keyChars :=
      List.forall_mem_cons.2 ⟨by decide, List.forall_mem_singleton.2 (by decide)⟩
    exact hunknown ['2', '+'] 'x' ['3'] (by decide) hbefore (by decide) true

end CommandLine

end PocketCalculator
