import PocketCalculator.Proofs.TokenRows

/-!
# What the result line says

Behind a complete expression the result line shows its value or one of two labels. Since no zeros
can be entered in front of a numeral, a division by zero can be seen on the tokens: it is a `/` with
a `0` behind it. The other label stands for a value that is infinite or not a number. The search for
a division by zero in the text of the expression never decides between the two. Main statement:
`result_afterAll`, for every state of a calculator.

## Main definitions

* `outcomeText` — what an outcome is shown as when nothing is known about the text.
* `Calculator.ShowsOutcome` — what the result line says about the expression in front of it.
-/

namespace PocketCalculator

open Float.Model (UnpackedFloat)

/-! ## Neighbouring tokens -/

theorem Token.texts_infix_texts_iff {us ts : List Token} : texts us <:+: texts ts ↔ us <:+: ts := by
  constructor
  · intro h
    obtain ⟨vs, hvs, htexts⟩ := List.infix_map_iff.1 h
    obtain rfl := texts_injective htexts
    exact hvs
  · intro h
    exact h.map text

namespace Expression

theorem infix_pairTokens_iff (o : Operator) (n : Numeral) (r : List (Operator × Numeral)) :
    [Token.operator o, Token.number n] <:+: pairTokens r ↔ (o, n) ∈ r := by
  induction r with
  | nil => simp [pairTokens]
  | cons p r ih =>
    have hfirst : [Token.operator o, Token.number n] <+: pairTokens (p :: r) ↔ (o, n) = p := by
      simp [pairTokens, List.cons_prefix_cons, Prod.ext_iff]
    have hsecond : ¬[Token.operator o, Token.number n] <+: .number p.2 :: pairTokens r := by
      simp [List.cons_prefix_cons]
    rw [List.mem_cons, ← hfirst, ← ih]
    show _ <:+: .operator p.1 :: .number p.2 :: pairTokens r ↔ _
    rw [List.infix_cons_iff, List.infix_cons_iff, or_iff_right hsecond]
    rfl

/-- An operator stands in front of a numeral if the two are a pair of the expression. -/
theorem infix_tokens_iff (o : Operator) (n : Numeral) (e : Expression) :
    [Token.operator o, Token.number n] <:+: e.tokens ↔ (o, n) ∈ e.tail := by
  have hhead : ¬[Token.operator o, Token.number n] <+: .number e.head :: pairTokens e.tail := by
    simp [List.cons_prefix_cons]
  rw [tokens, List.infix_cons_iff, or_iff_right hhead, infix_pairTokens_iff]

theorem strip_eq_of_mem_tail {e : Expression} (h : e.strip = e) {p : Operator × Numeral}
    (hp : p ∈ e.tail) : p.2.strip = p.2 := by
  have htail : e.tail.map (fun p => (p.1, p.2.strip)) = e.tail.map id := by
    rw [List.map_id]
    exact congrArg tail h
  exact congrArg Prod.snd (List.map_inj_left.1 htail p hp)

/-- Without zeros in front, a division by zero is a division by the numeral `0`. -/
theorem exists_isZeroDivision_iff {e : Expression} (h : e.strip = e) :
    (∃ p ∈ e.tail, isZeroDivision p = true) ↔ (.div, .zero) ∈ e.tail := by
  constructor
  · rintro ⟨⟨o, n⟩, hp, hzero⟩
    obtain ⟨rfl, hvalue⟩ := (isZeroDivision_iff _).1 hzero
    have hn : n = .zero := (Numeral.value_eq_zero_iff_of_strip (strip_eq_of_mem_tail h hp)).1 hvalue
    rwa [hn] at hp
  · intro hp
    exact ⟨_, hp, (isZeroDivision_iff _).2 ⟨rfl, rfl⟩⟩

end Expression

/-! ## Outcomes -/

theorem isFinite_eq_false_iff (x : Float) :
    x.isFinite = false ↔ x.isInf = true ∨ x.isNaN = true := by
  show x.toModel.unpack.isFinite = false ↔
    x.toModel.unpack.isInf = true ∨ x.toModel.unpack.isNaN = true
  cases x.toModel.unpack <;>
    simp [UnpackedFloat.isFinite, UnpackedFloat.isInf, UnpackedFloat.isNaN]

/-- What an outcome is shown as when nothing is known about the text. -/
def outcomeText : Except EvaluationError Float → String
  | .ok v => displayText v
  | .error e => if e.isDivisionByZero then divisionLabel else errorLabel

theorem FollowsCompute.evaluate_eq {text : String} (h : FollowsCompute text) :
    evaluate text = outcomeText (compute text) := by
  cases hcompute : compute text with
  | ok v => exact h.value v hcompute
  | error e =>
    cases hkind : e.isDivisionByZero with
    | true =>
      obtain ⟨v, rfl⟩ := (isDivisionByZero_iff e).1 hkind
      exact h.division.2 ⟨v, hcompute⟩
    | false =>
      have hlabel : evaluate text = errorLabel := h.failure.2 ⟨e, hcompute, hkind⟩
      rw [hlabel, outcomeText, hkind]
      rfl

theorem FollowsCompute.errorLabel_iff {text : String} {e : Expression} (h : FollowsCompute text)
    (he : Expression.ofText text = .ok e) :
    evaluate text = errorLabel ↔ ∃ v, compute text = .error (.notFinite v) := by
  rw [h.failure]
  constructor
  · rintro ⟨err, herr, hkind⟩
    rcases valueOf_cases he with ⟨v, -, -, hv⟩ | ⟨v, -, -, hv⟩ | ⟨v, hv⟩
    · cases hv.symm.trans herr
    · exact ⟨v, hv⟩
    · cases hv.symm.trans herr
      cases hkind
  · rintro ⟨v, hv⟩
    exact ⟨_, hv, rfl⟩

/-! ## The result line -/

namespace Calculator

/-- The result line of a complete expression: a label for a `/` with a `0` behind it, another one
for a value that is infinite or not a number, and the value itself if it is neither. -/
structure ShowsOutcome (c : Calculator) : Prop where
  division : c.result = divisionLabel ↔ ["/", "0"] <:+: c.display.tokens
  failure : c.result = errorLabel ↔ ¬["/", "0"] <:+: c.display.tokens ∧
    ∃ v, valueOf (joinTexts c.display.tokens) = .ok v ∧ (v.isInf = true ∨ v.isNaN = true)
  raises : c.result = errorLabel →
    ∃ v, valueOf (joinTexts c.display.tokens) = .ok v ∧
      compute (joinTexts c.display.tokens) = .error (.notFinite v)
  value : c.result ≠ divisionLabel → c.result ≠ errorLabel →
    ∃ v, valueOf (joinTexts c.display.tokens) = .ok v ∧ v.isFinite = true ∧
      c.result = displayText v
  /-- That the text mentions a division by zero makes no difference. -/
  plain : c.result = outcomeText (compute (joinTexts c.display.tokens))

/-- A division by zero can be seen on the tokens. -/
theorem compute_divisionByZero_iff_infix {e : Expression} (h : e.strip = e) :
    (∃ v, compute (joinTexts (Token.texts e.tokens)) = .error (.divisionByZero v)) ↔
      ["/", "0"] <:+: Token.texts e.tokens := by
  have htexts : ["/", "0"] = Token.texts [.operator .div, .number .zero] := by decide
  rw [compute_divisionByZero_iff (Expression.ofText_joinTexts e),
    Expression.exists_isZeroDivision_iff h, ← Expression.infix_tokens_iff,
    htexts, Token.texts_infix_texts_iff]

theorem showsOutcome_of_tokens {c : Calculator} (hc : Settled c) {e : Expression}
    (he : e.strip = e) (htokens : c.tokens = e.tokens) : ShowsOutcome c := by
  let text := joinTexts (Token.texts e.tokens)
  have hread : Expression.ofText text = .ok e := Expression.ofText_joinTexts e
  have hfollows : FollowsCompute text := by
    have hstrip := followsCompute_strip e
    rwa [he] at hstrip
  have hresult : c.result = evaluate text := by
    rw [hc.result_eq, htokens, liveResult_tokens]
  have hdisplay : c.display.tokens = Token.texts e.tokens := congrArg Token.texts htokens
  have hzero := compute_divisionByZero_iff_infix he
  refine ⟨?_, ?_, ?_, ?_, ?_⟩
  · rw [hresult, hdisplay, hfollows.division, hzero]
  · rw [hresult, hdisplay, hfollows.errorLabel_iff hread, ← hzero]
    constructor
    · rintro ⟨v, hv⟩
      obtain ⟨hvalue, hfinite⟩ := (compute_notFinite_iff hread v).1 hv
      refine ⟨?_, v, hvalue, (isFinite_eq_false_iff v).1 hfinite⟩
      rintro ⟨w, hw⟩
      cases hv.symm.trans hw
    · rintro ⟨-, v, hvalue, hspecial⟩
      exact ⟨v, (compute_notFinite_iff hread v).2 ⟨hvalue, (isFinite_eq_false_iff v).2 hspecial⟩⟩
  · rw [hresult, hdisplay, hfollows.errorLabel_iff hread]
    rintro ⟨v, hv⟩
    exact ⟨v, ((compute_notFinite_iff hread v).1 hv).1, hv⟩
  · rw [hresult, hdisplay]
    intro hdivision herror
    rcases valueOf_cases hread with ⟨v, hvalue, hfinite, hv⟩ | ⟨v, -, -, hv⟩ | ⟨v, hv⟩
    · exact ⟨v, hvalue, hfinite, hfollows.value v hv⟩
    · exact absurd (hfollows.failure.2 ⟨_, hv, rfl⟩) herror
    · exact absurd (hfollows.division.2 ⟨v, hv⟩) hdivision
  · rw [hresult, hdisplay, hfollows.evaluate_eq]

theorem Settled.isError_iff {c : Calculator} (h : Settled c) :
    c.display.isError = true ↔
      Token.endsWithNumber c.tokens = true ∧
        ∃ err, compute (joinTexts c.display.tokens) = .error err := by
  have hdisplay : c.display.isError =
      errorLabel.toList.isPrefixOf (liveResult c.tokens).toList := by
    rw [← h.result_eq]
    rfl
  rw [hdisplay]
  by_cases hends : Token.endsWithNumber c.tokens = true
  · rw [liveResult_of_endsWithNumber hends, isPrefixOf_evaluate_iff, and_iff_right hends]
    rfl
  · rw [liveResult, if_neg hends]
    exact iff_of_false (by decide) fun hboth => hends hboth.1

/-- Whatever was asked of a calculator, its result line shows the outcome of a complete expression,
and what is shown is an error exactly if the expression is complete and cannot be computed. -/
theorem result_afterAll (calls : List Call) :
    let c := initial.afterAll calls
    (Token.endsWithNumber c.tokens = true → ShowsOutcome c) ∧
      (c.display.isError = true ↔
        Token.endsWithNumber c.tokens = true ∧
          ∃ err, compute (joinTexts c.display.tokens) = .error err) := by
  intro c
  have hc : Settled c := settled_initial.afterAll calls
  obtain ⟨ks, hks⟩ := initial.exists_pressAll_afterAll calls
  have hrow : Token.IsRow c.tokens := by
    rw [show c = initial.pressAll ks from hks]
    exact isRow_initial_pressAll ks
  refine ⟨?_, hc.isError_iff⟩
  intro hends
  obtain ⟨e, he, htokens⟩ := hrow.exists_expression hends
  exact showsOutcome_of_tokens hc he htokens

/-- The label that belongs to no key stops the first call, not the second. -/
theorem result_eight_by_zero :
    let c := initial.afterAll [.pressMany ["8", "/", "0", "x", "1"], .press "="]
    c.display.tokens = ["8", "/", "0"] ∧ ShowsOutcome c ∧ c.result = divisionLabel ∧
      ∃ err, compute "8 / 0" = .error err := by
  intro c
  obtain ⟨hshows, herror⟩ := result_afterAll [.pressMany ["8", "/", "0", "x", "1"], .press "="]
  have htokens : c.display.tokens = ["8", "/", "0"] := by rfl
  have houtcome : ShowsOutcome c := hshows (by rfl)
  have hresult : c.result = divisionLabel := houtcome.division.2 (by rw [htokens]; decide)
  have hprefix : c.display.isError = true := by
    show errorLabel.toList.isPrefixOf c.result.toList = true
    rw [hresult]
    decide
  obtain ⟨-, err, herr⟩ := herror.1 hprefix
  refine ⟨htokens, houtcome, hresult, err, ?_⟩
  have htext : joinTexts c.display.tokens = "8 / 0" := by
    rw [htokens]
    decide
  rwa [htext] at herr

end Calculator

end PocketCalculator
