import PocketCalculator.Proofs.KeyTraces
import PocketCalculator.Proofs.OptionGrammar

/-!
# Keys given as arguments

The minus key is the character that options begin with. Arguments of keys and blanks are labels all
the same, whatever dashes stand in front, and the command that presses keys loses none of their
characters. There is one exception: the first argument that is just `--` ends the options, as it
does for every command, and is no label. Main statement: `run_keys_of_isLabelText`.

## Main definitions

* `IsLabelText` — arguments of keys and blanks.
-/

namespace PocketCalculator.CommandLine

def IsLabelText (arg : String) : Prop := ∀ c ∈ arg.toList, c ∈ keyChars ∨ isBlank c = true

instance : DecidablePred IsLabelText := fun arg =>
  decidable_of_iff (arg.toList.all (fun c => c ∈ keyChars || isBlank c) = true)
    (by simp [IsLabelText])

/-! ## Labels are operands -/

/-- The options of the command have a letter in common that is on no key. -/
theorem not_begins_of_isLabelText {arg : String} (h : IsLabelText arg) :
    ∀ f ∈ keysGrammar.forms, ¬f.Begins arg := by
  have hletter : ∀ f ∈ keysGrammar.forms, 'e' ∈ f.name.toList := by decide
  intro f hf hbegins
  have hmem : 'e' ∈ arg.toList := by
    rcases hbegins with rfl | ⟨v, rfl⟩
    · exact hletter f hf
    · simp [hletter f hf]
  exact absurd (h 'e' hmem) (by decide)

theorem isOperand_of_isLabelText {arg : String} (h : IsLabelText arg) (hmark : arg ≠ "--") :
    keysGrammar.IsOperand arg := .inr ⟨rfl, hmark, not_begins_of_isLabelText h⟩

theorem scans_of_isLabelText {args : List String} (h : ∀ arg ∈ args, IsLabelText arg) :
    keysGrammar.Scans args [] (args.erase "--") := by
  induction args with
  | nil => exact .nil
  | cons arg args ih =>
    by_cases hmark : arg = "--"
    · subst hmark
      rw [List.erase_cons_head]
      exact .endOfOptions args
    · rw [List.erase_cons_tail (by simpa using hmark)]
      have hrest := ih fun a ha => h a (List.mem_cons_of_mem arg ha)
      exact .operand (isOperand_of_isLabelText (h arg List.mem_cons_self) hmark) rfl hrest

theorem read_keys_of_isLabelText {args : List String} (h : ∀ arg ∈ args, IsLabelText arg) :
    Command.read .keys args =
      if (args.erase "--").isEmpty then .error (.usage (.argumentMissing "LABELS..."))
      else .ok (.keys (args.erase "--") false) := by
  have hscans := scans_of_isLabelText h
  rw [Command.read, Grammar.options_of_scans Grammar.isWellFormed_keys hscans (by simp)]
  rfl

/-! ## What is printed -/

theorem mem_keyChars_of_mem_labelChars {labels : List String} (h : ∀ arg ∈ labels, IsLabelText arg)
    {c : Char} (hc : c ∈ labelChars labels) : c ∈ keyChars := by
  obtain ⟨hmem, hblank⟩ := List.mem_filter.1 hc
  obtain ⟨arg, harg, hc⟩ := List.mem_flatMap.1 hmem
  refine (h arg harg c hc).resolve_right ?_
  simpa using hblank

/-- Every character of the arguments that is no blank is pressed once, in the order given, and the
display behind the last of them is printed. The first argument that is just a `--` does not count
as one of them. -/
theorem run_keys_of_isLabelText {args : List String} (h : ∀ arg ∈ args, IsLabelText arg)
    {env : Environment} {s : Settings} {level : LogLevel}
    (henv : prepare env none = .ok (s, level)) :
    let labels := args.erase "--"
    let outcome := run env ("keys" :: args)
    (labels ≠ [] → ∃ c, pressChars (labelChars labels) = .ok c ∧ outcome.exit = 0 ∧
      outcome.stdout = [(Json.object c.display.members).write]) ∧
    (labels = [] →
      outcome = ⟨2, [], ["Error: Missing argument 'LABELS...'."], none, none⟩) := by
  intro labels outcome
  have hinvocation : readInvocation ("keys" :: args) = .ok (none, .keys, args) :=
    readInvocation_name rfl args
  have hread := read_keys_of_isLabelText h
  refine ⟨?_, ?_⟩
  · intro hne
    have hkeys : outcome = runKeys level labels false := by
      rw [if_neg (mt List.isEmpty_iff.1 hne)] at hread
      exact run_of_read hinvocation henv hread
    have hlabels : ∀ arg ∈ labels, IsLabelText arg :=
      fun arg harg => h arg (List.mem_of_mem_erase harg)
    obtain ⟨ks, hks⟩ := exists_keys fun c hc => mem_keyChars_of_mem_labelChars hlabels hc
    have hprints : PrintsStates level labels := printsStates_of_keys hks
    obtain ⟨c, hc, hline⟩ := hprints.plain
    rw [hkeys]
    exact ⟨c, hc, hprints.exit false, hline⟩
  · intro hnil
    rw [if_pos (List.isEmpty_iff.2 hnil)] at hread
    exact run_of_read_error hinvocation henv hread

/-- Dashes in front of a digit, alone, and behind the mark. -/
theorem run_keys_of_isLabelText_dashes :
    (run (fun _ => none) ["keys", "-5", "--", " --", "*"]).stdout =
      ["\x7b\"accumulator\": \"0 - 5 *\", \"result\": \"\", " ++
        "\"tokens\": [\"0\", \"-\", \"5\", \"*\"], \"mode\": \"entering\", " ++
        "\"is_error\": false\x7d"] := by
  have henv : prepare (fun _ => none) none = .ok (.default, .warning) := by decide +kernel
  have hlabels : ∀ arg ∈ ["-5", "--", " --", "*"], IsLabelText arg := by
    simp only [List.forall_mem_cons]
    decide
  have hrun := run_keys_of_isLabelText hlabels henv
  obtain ⟨c, hc, -, hline⟩ := hrun.1 (by decide)
  obtain rfl := Except.ok.inj hc
  rw [hline]
  decide +kernel

/-- The mark alone is no label: there is nothing to press, and nothing is printed. -/
theorem not_forall_run_keys_prints :
    ¬∀ args : List String, args ≠ [] → (∀ arg ∈ args, IsLabelText arg) →
      ∀ env s level, prepare env none = .ok (s, level) →
        ∃ c, pressChars (labelChars args) = .ok c ∧
          (run env ("keys" :: args)).stdout = [(Json.object c.display.members).write] := by
  intro hall
  have henv : prepare (fun _ => none) none = .ok (.default, .warning) := by decide +kernel
  have hlabels : ∀ arg ∈ ["--"], IsLabelText arg := List.forall_mem_singleton.2 (by decide)
  obtain ⟨c, -, hline⟩ := hall ["--"] (by decide) hlabels _ _ _ henv
  have hnothing : (run (fun _ => none) ["keys", "--"]).stdout = [] := by decide +kernel
  rw [hnothing] at hline
  cases hline

end PocketCalculator.CommandLine
