import PocketCalculator.Calculator

/-!
# The lines on the display

The tokens, the two lines and the mode of a calculator are fields of their own. Whatever is asked of
a calculator, with labels that belong to no key among the rest, the lines stay those of the tokens.
Main statement: `display_afterAll`, the state of the display after any row of calls.

## Main definitions

* `Calculator.Call`, `Calculator.afterAll` — what a host can ask of a calculator, and the state that
  is left behind.
* `Calculator.Settled` — the two kinds of state that a calculator can be in.
-/

namespace PocketCalculator

namespace Calculator

/-! ## Calls -/

/-- What a host can ask of a calculator. A label may be any text. -/
inductive Call where
  | press (label : String)
  | pressMany (labels : List String)
  | clear
  | reset
deriving DecidableEq, Repr

/-- The state that a call leaves behind, also if it fails. -/
def after (c : Calculator) : Call → Calculator
  | .press l =>
    match c.pressLabel l with
    | .ok c' => c'
    | .error _ => c
  | .pressMany ls => (c.pressLabels ls).1
  | .clear => c.press .clear
  | .reset => initial

def afterAll (c : Calculator) (calls : List Call) : Calculator := calls.foldl after c

theorem exists_pressAll_pressLabels (c : Calculator) (ls : List String) :
    ∃ ks, (c.pressLabels ls).1 = c.pressAll ks := by
  induction ls generalizing c with
  | nil => exact ⟨[], rfl⟩
  | cons l r ih =>
    rw [pressLabels]
    cases Key.ofLabel? l with
    | none => exact ⟨[], rfl⟩
    | some k =>
      obtain ⟨ks, hks⟩ := ih (c.press k)
      exact ⟨k :: ks, hks⟩

/-- Whatever is asked of a calculator, keys alone would do. -/
theorem exists_pressAll_after (c : Calculator) (call : Call) :
    ∃ ks, c.after call = c.pressAll ks := by
  cases call with
  | press l =>
    rw [after, pressLabel]
    cases Key.ofLabel? l with
    | none => exact ⟨[], rfl⟩
    | some k => exact ⟨[k], rfl⟩
  | pressMany ls => exact exists_pressAll_pressLabels c ls
  | clear => exact ⟨[.clear], rfl⟩
  | reset => exact ⟨[.clear], rfl⟩

theorem exists_pressAll_afterAll (c : Calculator) (calls : List Call) :
    ∃ ks, c.afterAll calls = c.pressAll ks := by
  induction calls generalizing c with
  | nil => exact ⟨[], rfl⟩
  | cons call calls ih =>
    obtain ⟨ks, hks⟩ := c.exists_pressAll_after call
    obtain ⟨ls, hls⟩ := ih (c.after call)
    refine ⟨ks ++ ls, ?_⟩
    rw [pressAll_append, ← hks]
    exact hls

/-! ## Finishing -/

theorem finish_of_endsWithNumber {c : Calculator} (h : Token.endsWithNumber c.tokens = true) :
    c.finish = ⟨c.tokens, frozenText (Token.texts c.tokens) (evaluate (expressionText c.tokens)),
      evaluate (expressionText c.tokens), .evaluated⟩ :=
  if_pos h

theorem finish_of_not_endsWithNumber {c : Calculator}
    (h : ¬Token.endsWithNumber c.tokens = true) : c.finish = c :=
  if_neg h

@[simp] theorem finish_tokens (c : Calculator) : c.finish.tokens = c.tokens := by
  rw [finish]
  split <;> rfl

theorem finish_finish (c : Calculator) : c.finish.finish = c.finish := by
  by_cases h : Token.endsWithNumber c.tokens = true
  · rw [finish_of_endsWithNumber (c := c.finish) (by simpa using h), finish_of_endsWithNumber h]
  · rw [finish_of_not_endsWithNumber h, finish_of_not_endsWithNumber h]

theorem liveResult_of_endsWithNumber {ts : List Token} (h : Token.endsWithNumber ts = true) :
    liveResult ts = evaluate (expressionText ts) :=
  if_pos h

/-! ## The states of a calculator -/

/-- A calculator shows tokens as they were entered, or a complete expression with its result. -/
inductive Settled : Calculator → Prop
  | entering (ts : List Token) : Settled (entered ts)
  | evaluated {ts : List Token} (h : Token.endsWithNumber ts = true) :
      Settled (entered ts).finish

theorem settled_initial : Settled initial := .entering []

theorem Settled.finish {c : Calculator} (h : Settled c) : Settled c.finish := by
  cases h with
  | entering ts =>
    by_cases hts : Token.endsWithNumber ts = true
    · exact .evaluated hts
    · rw [finish_of_not_endsWithNumber hts]
      exact .entering ts
  | evaluated hts =>
    rw [finish_finish]
    exact .evaluated hts

theorem Settled.press {c : Calculator} (h : Settled c) (k : Key) : Settled (c.press k) := by
  cases k with
  | digit d => exact .entering _
  | operator o => exact .entering _
  | clear => exact settled_initial
  | evaluate => exact h.finish

theorem Settled.pressAll {c : Calculator} (h : Settled c) (ks : List Key) :
    Settled (c.pressAll ks) := by
  induction ks generalizing c with
  | nil => exact h
  | cons k ks ih => exact ih (h.press k)

theorem Settled.afterAll {c : Calculator} (h : Settled c) (calls : List Call) :
    Settled (c.afterAll calls) := by
  obtain ⟨ks, hks⟩ := c.exists_pressAll_afterAll calls
  rw [hks]
  exact h.pressAll ks

/-! ## The lines -/

theorem Settled.result_eq {c : Calculator} (h : Settled c) : c.result = liveResult c.tokens := by
  cases h with
  | entering ts => rfl
  | evaluated hts =>
    rw [finish_of_endsWithNumber hts]
    exact (liveResult_of_endsWithNumber hts).symm

theorem Settled.accumulator_of_entering {c : Calculator} (h : Settled c)
    (hm : c.mode = .entering) : c.accumulator = expressionText c.tokens := by
  cases h with
  | entering ts => rfl
  | evaluated hts =>
    rw [finish_of_endsWithNumber hts] at hm
    cases hm

theorem Settled.of_evaluated {c : Calculator} (h : Settled c) (hm : c.mode = .evaluated) :
    Token.endsWithNumber c.tokens = true ∧
      c.accumulator = frozenText (Token.texts c.tokens) c.result := by
  cases h with
  | entering ts => cases hm
  | evaluated hts =>
    refine ⟨?_, ?_⟩
    · rw [finish_tokens]
      exact hts
    · rw [finish_of_endsWithNumber hts]

theorem Settled.finish_result {c : Calculator} (h : Settled c) : c.finish.result = c.result := by
  rw [h.finish.result_eq, h.result_eq, finish_tokens]

theorem liveResult_eq (ts : List Token) :
    liveResult ts =
      match ts.getLast? with
      | some (.number _) => evaluate (joinTexts (Token.texts ts))
      | _ => "" := by
  rw [liveResult, Token.endsWithNumber]
  rcases ts.getLast? with _ | ⟨_ | _⟩ <;> rfl

theorem exists_concat_of_endsWithNumber {ts : List Token} (h : Token.endsWithNumber ts = true) :
    ∃ us n, ts = us ++ [.number n] := by
  rw [Token.endsWithNumber, Option.any_eq_true] at h
  obtain ⟨t, ht, hn⟩ := h
  obtain ⟨us, rfl⟩ := List.getLast?_eq_some_iff.1 ht
  cases t with
  | number n => exact ⟨us, n, rfl⟩
  | operator o => cases hn

theorem frozenText_eq (ts : List String) (result : String) :
    frozenText ts result = joinTexts ts ++ " = " ++ result := rfl

theorem pressLabel_evaluate (c : Calculator) : c.pressLabel "=" = .ok c.finish := rfl

/-- After every row of calls the lines on the display are those of the tokens, and a further `=`
changes neither the tokens nor the result, the one after it nothing at all. -/
theorem display_afterAll (calls : List Call) :
    let c := initial.afterAll calls
    (c.result =
      match c.tokens.getLast? with
      | some (.number _) => evaluate (joinTexts (Token.texts c.tokens))
      | _ => "") ∧
    (c.mode = .entering → c.accumulator = joinTexts (Token.texts c.tokens)) ∧
    (c.mode = .evaluated →
      (∃ ts n, c.tokens = ts ++ [.number n]) ∧
        c.accumulator = joinTexts (Token.texts c.tokens) ++ " = " ++ c.result) ∧
    ∃ d, c.pressLabel "=" = .ok d ∧ d.tokens = c.tokens ∧ d.result = c.result ∧
      d.pressLabel "=" = .ok d := by
  intro c
  have h : Settled c := settled_initial.afterAll calls
  refine ⟨?_, h.accumulator_of_entering, fun hm => ?_, c.finish, rfl, finish_tokens c,
    h.finish_result, ?_⟩
  · rw [h.result_eq, liveResult_eq]
  · obtain ⟨hnumber, hacc⟩ := h.of_evaluated hm
    exact ⟨exists_concat_of_endsWithNumber hnumber, by rw [hacc, frozenText_eq]⟩
  · rw [pressLabel_evaluate, finish_finish]

end Calculator

end PocketCalculator
