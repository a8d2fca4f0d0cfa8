import Mathlib.Data.List.Infix
import PocketCalculator.Proofs.DoubleEvaluation
import PocketCalculator.CommandLine.Program

/-!
# Labels of failures

The display has a label for a division by zero and one for every other failure. It takes the first
also for a text that merely mentions a division by zero, which is meant for texts that do not read
as an expression. Where a readable text of this kind has a value that is not finite, the display and
the command line give it different labels, and nowhere else. Main statement:
`reportsFailures_iff`, when the labels are as they are meant to be.

## Main definitions

* `FollowsCompute` — the display shows what was computed, as the command line does.
* `ReportsFailures` — what is expected of the display, for texts that read as an expression and for
  those that do not.
-/

namespace PocketCalculator

/-! ## Mentioned divisions -/

theorem mentionsDivisionByZero_iff (s : List Char) :
    mentionsDivisionByZero s = true ↔ ['/', ' ', '0'] <:+: s := by
  induction s with
  | nil => simp [mentionsDivisionByZero]
  | cons c r ih =>
    rw [mentionsDivisionByZero, Bool.or_eq_true, ih, List.isPrefixOf_iff_prefix,
      List.infix_cons_iff]

/-! ## Numbers are no labels -/

/-- The characters that the texts of numbers are made of. -/
def numberChars : List Char :=
  ['0', '1', '2', '3', '4', '5', '6', '7', '8', '9', '-', '.', 'a', 'f', 'i', 'n']

theorem map_toChar_subset (ds : List Digit) : ds.map Digit.toChar ⊆ numberChars := by
  have hdigit : ∀ d : Digit, d.toChar ∈ numberChars := by decide
  intro c hc
  obtain ⟨d, -, rfl⟩ := List.mem_map.1 hc
  exact hdigit d

theorem Decimal.text_subset (d : Decimal) : d.text.toList ⊆ numberChars := by
  have hsign : d.sign ⊆ numberChars := by
    unfold Decimal.sign
    split <;> decide
  have hwhole : d.whole ⊆ numberChars := map_toChar_subset _
  have hpoint : d.point ⊆ numberChars := by
    unfold Decimal.point
    split
    · exact List.nil_subset _
    · exact List.cons_subset.2 ⟨by decide, map_toChar_subset _⟩
  rw [Decimal.text, String.toList_ofList]
  exact List.append_subset.2 ⟨List.append_subset.2 ⟨hsign, hwhole⟩, hpoint⟩

theorem displayText_subset (x : Float) : (displayText x).toList ⊆ numberChars := by
  unfold displayText numberText
  split
  · decide
  · decide
  · decide
  · decide
  · exact Decimal.text_subset _

theorem displayText_ne {s : String} (h : 'E' ∈ s.toList) (x : Float) : displayText x ≠ s := by
  intro hs
  rw [← hs] at h
  exact absurd (displayText_subset x h) (by decide)

/-! ## What can be computed -/

theorem evaluate_of_ok {text : String} {v : Float} (h : compute text = .ok v) :
    evaluate text = displayText v := by
  rw [evaluate, h]

theorem evaluate_of_error {text : String} {e : EvaluationError} (h : compute text = .error e) :
    evaluate text = failureLabel text e := by
  rw [evaluate, h]

theorem compute_of_unreadable {text : String} {e : ReadError}
    (h : Expression.ofText text = .error e) : compute text = .error (.unreadable e) := by
  rw [compute, readExpression, h]
  rfl

/-! ## Agreement -/

/-- The display shows the value that is computed, or the label of the failure, and the command line
prints the same. -/
structure FollowsCompute (text : String) : Prop where
  division : evaluate text = divisionLabel ↔ ∃ v, compute text = .error (.divisionByZero v)
  failure : evaluate text = errorLabel ↔
    ∃ e, compute text = .error e ∧ e.isDivisionByZero = false
  value : ∀ v, compute text = .ok v → evaluate text = displayText v
  printed : ∀ level, (CommandLine.runEval level text).stdout = [evaluate text]

/-- A text that does not read as an expression is searched for a division by zero. -/
def ReportsFailures (text : String) : Prop :=
  match Expression.ofText text with
  | .ok _ => FollowsCompute text
  | .error _ =>
    evaluate text = if ['/', ' ', '0'] <:+: text.toList then divisionLabel else errorLabel

theorem FollowsCompute.of_ok {text : String} {v : Float} (h : compute text = .ok v) :
    FollowsCompute text := by
  have heval := evaluate_of_ok h
  refine ⟨?_, ?_, ?_, ?_⟩
  · rw [heval, h]
    exact ⟨fun hl => absurd hl (displayText_ne (by decide) v), fun ⟨_, hw⟩ => by cases hw⟩
  · rw [heval, h]
    exact ⟨fun hl => absurd hl (displayText_ne (by decide) v), fun ⟨_, hw, _⟩ => by cases hw⟩
  · intro w hw
    exact evaluate_of_ok hw
  · intro level
    rw [CommandLine.runEval, h, heval]

theorem isDivisionByZero_iff (e : EvaluationError) :
    e.isDivisionByZero = true ↔ ∃ v, e = .divisionByZero v := by
  cases e <;> simp [EvaluationError.isDivisionByZero]

theorem FollowsCompute.of_error {text : String} {e : EvaluationError}
    (h : compute text = .error e)
    (hlabel : evaluate text = if e.isDivisionByZero then divisionLabel else errorLabel) :
    FollowsCompute text := by
  have hdivision : evaluate text = divisionLabel ↔ e.isDivisionByZero = true := by
    rw [hlabel]
    cases e.isDivisionByZero <;> decide
  have hfailure : evaluate text = errorLabel ↔ e.isDivisionByZero = false := by
    rw [hlabel]
    cases e.isDivisionByZero <;> decide
  refine ⟨?_, ?_, ?_, ?_⟩
  · rw [hdivision, isDivisionByZero_iff, h]
    simp
  · rw [hfailure, h]
    simp
  · intro v hv
    rw [h] at hv
    cases hv
  · intro level
    rw [CommandLine.runEval, h, hlabel]

/-- A failure of another kind leaves the label to the text. -/
theorem evaluate_of_other_error {text : String} {e : EvaluationError}
    (h : compute text = .error e) (he : e.isDivisionByZero = false) :
    evaluate text = if ['/', ' ', '0'] <:+: text.toList then divisionLabel else errorLabel := by
  rw [evaluate_of_error h, failureLabel, he, Bool.false_or]
  simp only [mentionsDivisionByZero_iff]

theorem runEval_of_notFinite {text : String} {v : Float}
    (h : compute text = .error (.notFinite v)) (level : CommandLine.LogLevel) :
    (CommandLine.runEval level text).stdout = [errorLabel] := by
  rw [CommandLine.runEval, h]
  rfl

theorem followsCompute_of_notFinite_iff {text : String} {v : Float}
    (h : compute text = .error (.notFinite v)) :
    FollowsCompute text ↔ ¬['/', ' ', '0'] <:+: text.toList := by
  have heval := evaluate_of_other_error h rfl
  constructor
  · intro hfollows hmentions
    rw [if_pos hmentions] at heval
    have hprinted := hfollows.printed .info
    rw [runEval_of_notFinite h, heval] at hprinted
    exact absurd hprinted (by decide)
  · intro hmentions
    rw [if_neg hmentions] at heval
    exact .of_error h heval

theorem followsCompute_iff {text : String} {e : Expression}
    (h : Expression.ofText text = .ok e) :
    FollowsCompute text ↔
      ¬((∃ v, compute text = .error (.notFinite v)) ∧ ['/', ' ', '0'] <:+: text.toList) := by
  rcases valueOf_cases h with ⟨v, -, -, hv⟩ | ⟨v, -, -, hv⟩ | ⟨v, hv⟩
  · have hnot : ¬∃ w, compute text = .error (.notFinite w) := by simp [hv]
    exact iff_of_true (.of_ok hv) fun hboth => hnot hboth.1
  · rw [followsCompute_of_notFinite_iff hv, not_and]
    exact ⟨fun hmentions _ => hmentions, fun himp => himp ⟨v, hv⟩⟩
  · have hnot : ¬∃ w, compute text = .error (.notFinite w) := by simp [hv]
    exact iff_of_true (.of_error hv (evaluate_of_error hv)) fun hboth => hnot hboth.1

/-- The labels are as they are meant to be, except where the value of a text that mentions a
division by zero is not finite. There the display reports a division, and the command line an error
of another kind. -/
theorem reportsFailures_iff (text : String) :
    (ReportsFailures text ↔
      ¬((∃ v, compute text = .error (.notFinite v)) ∧ ['/', ' ', '0'] <:+: text.toList)) ∧
    ((∃ v, compute text = .error (.notFinite v)) → ['/', ' ', '0'] <:+: text.toList →
      evaluate text = divisionLabel ∧
        ∀ level, (CommandLine.runEval level text).stdout = [errorLabel]) := by
  refine ⟨?_, ?_⟩
  · rw [ReportsFailures]
    split
    · next e h => exact followsCompute_iff h
    · next e h =>
      have hnot : ¬∃ v, compute text = .error (.notFinite v) := by simp [compute_of_unreadable h]
      have hlabel := evaluate_of_other_error (compute_of_unreadable h) rfl
      exact iff_of_true hlabel fun hboth => hnot hboth.1
  · rintro ⟨v, hv⟩ hmentions
    refine ⟨?_, runEval_of_notFinite hv⟩
    rw [evaluate_of_other_error hv rfl, if_pos hmentions]

theorem value_quotient {a b : Numeral} (h : ¬(b.toFloat == 0) = true) :
    Expression.value ⟨a, [(.div, b)]⟩ = .ok (a.toFloat / b.toFloat) := by
  have hfactor : doubles.factor a.toFloat (.div, b) = .ok (a.toFloat / b.toFloat) := if_neg h
  rw [Expression.value, doubles.result_reversePolish]
  show (doubles.factor a.toFloat (.div, b) >>= pure) >>= pure = _
  rw [hfactor]
  rfl

/-- Nines beyond all doubles, divided by five: the value is infinite, and the zero that the divisor
is spelled with passes for a division by zero. -/
theorem not_reportsFailures_nines :
    let text := String.ofList (List.replicate 310 '9') ++ " / 05"
    (∃ e, Expression.ofText text = .ok e) ∧ (∃ v, compute text = .error (.notFinite v)) ∧
      evaluate text = divisionLabel ∧
      (CommandLine.runEval .info text).stdout = [errorLabel] ∧ ¬ReportsFailures text := by
  intro text
  let nines : Numeral := ⟨List.replicate 310 9, List.replicate_succ_ne_nil⟩
  let five : Numeral := ⟨[0, 5], by decide⟩
  let e : Expression := ⟨nines, [(.div, five)]⟩
  have htext : text = joinTexts (Token.texts e.tokens) := by
    have hnines : nines.text = String.ofList (List.replicate 310 '9') :=
      congrArg String.ofList List.map_replicate
    show _ = nines.text ++ " " ++ "/" ++ " " ++ "05"
    rw [hnines, String.append_assoc, String.append_assoc, String.append_assoc]
    rfl
  have he : Expression.ofText text = .ok e := by rw [htext, Expression.ofText_joinTexts]
  have hfive : ¬(five.toFloat == 0) = true := by decide
  have hinfinite : ¬(nines.toFloat / five.toFloat).isFinite = true := by decide +kernel
  have hv : compute text = .error (.notFinite (nines.toFloat / five.toFloat)) := by
    rw [compute_eq_of_ofText he, value_quotient hfive]
    exact if_neg hinfinite
  have hmentions : ['/', ' ', '0'] <:+: text.toList := by
    have hdivisor : ['/', ' ', '0'] <:+: " / 05".toList := by decide
    rw [String.toList_append]
    exact hdivisor.trans (List.suffix_append _ _).isInfix
  refine ⟨⟨e, he⟩, ⟨_, hv⟩, ?_, runEval_of_notFinite hv _, ?_⟩
  · rw [evaluate_of_other_error hv rfl, if_pos hmentions]
  · rw [ReportsFailures, he]
    exact fun hfollows => (followsCompute_of_notFinite_iff hv).1 hfollows hmentions

end PocketCalculator
