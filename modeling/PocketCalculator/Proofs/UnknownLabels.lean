import PocketCalculator.Proofs.TokenRows

/-!
# Labels that belong to no key

A calculator is given texts as labels. The sixteen labels of the keypad are always taken, whatever
comes of the evaluation; any other text is refused before it changes anything. A row of labels is
pressed up to the first that is refused, and the calculator stays as that one found it. Main
statement: `refusesUnknown_afterAll`, for every state of a calculator.

## Main definitions

* `keyChars`, `IsKeyLabel` — the characters and the labels on the keypad.
* `IsLabelled` — the outcomes of an evaluation that the display has a text for.
* `Calculator.RefusesUnknown` — which rows of labels are refused, and what is left of them.
-/

namespace PocketCalculator

/-! ## The labels on the keypad -/

def keyChars : List Char := "0123456789+-*/C=".toList

def IsKeyLabel (s : String) : Prop := s ∈ keyChars.map String.singleton

instance : DecidablePred IsKeyLabel := fun s =>
  inferInstanceAs (Decidable (s ∈ keyChars.map String.singleton))

theorem mem_keyChars_iff (c : Char) : c ∈ keyChars ↔ ∃ k : Key, k.symbol = c := by
  constructor
  · intro h
    have hread : keyChars.all (fun c => (Key.ofChar? c).isSome) = true := by decide
    obtain ⟨k, hk⟩ := Option.isSome_iff_exists.1 (List.all_eq_true.1 hread c h)
    exact ⟨k, Key.symbol_of_ofChar? hk⟩
  · rintro ⟨k, rfl⟩
    cases k with
    | digit d => revert d; decide
    | operator o => cases o <;> decide
    | clear => decide
    | evaluate => decide

theorem isKeyLabel_iff (s : String) : IsKeyLabel s ↔ ∃ k : Key, k.label = s := by
  simp only [IsKeyLabel, List.mem_map, mem_keyChars_iff]
  constructor
  · rintro ⟨_, ⟨k, rfl⟩, rfl⟩
    exact ⟨k, rfl⟩
  · rintro ⟨k, rfl⟩
    exact ⟨_, ⟨k, rfl⟩, rfl⟩

theorem isKeyLabel_label (k : Key) : IsKeyLabel k.label := (isKeyLabel_iff _).2 ⟨k, rfl⟩

theorem not_isKeyLabel_iff (s : String) : ¬IsKeyLabel s ↔ Key.ofLabel? s = none := by
  rw [isKeyLabel_iff, Option.eq_none_iff_forall_ne_some, not_exists]
  constructor
  · exact fun h k hk => h k (Key.label_of_ofLabel? hk)
  · rintro h k rfl
    exact h k (Key.ofLabel?_label k)

/-- What can be read is read to the end, or up to the first that cannot. -/
theorem exists_map_or_append {α β : Type} {read : α → Option β} {write : β → α}
    (hread : ∀ {a b}, read a = some b → write b = a) (as : List α) :
    (∃ bs : List β, as = bs.map write) ∨
      ∃ (bs : List β) (a : α) (behind : List α),
        as = bs.map write ++ a :: behind ∧ read a = none := by
  induction as with
  | nil => exact .inl ⟨[], rfl⟩
  | cons a as ih =>
    cases ha : read a with
    | none => exact .inr ⟨[], a, as, rfl, ha⟩
    | some b =>
      obtain rfl := hread ha
      rcases ih with ⟨bs, rfl⟩ | ⟨bs, a, behind, rfl, ha⟩
      · exact .inl ⟨b :: bs, rfl⟩
      · exact .inr ⟨b :: bs, a, behind, rfl, ha⟩

theorem exists_map_of_forall {α β : Type} {read : α → Option β} {write : β → α}
    (hread : ∀ {a b}, read a = some b → write b = a) {as : List α} (h : ∀ a ∈ as, read a ≠ none) :
    ∃ bs : List β, as = bs.map write := by
  refine (exists_map_or_append hread as).resolve_right ?_
  rintro ⟨bs, a, behind, rfl, ha⟩
  exact h a (by simp) ha

theorem exists_labels {labels : List String} (h : ∀ l ∈ labels, IsKeyLabel l) :
    ∃ ks : List Key, labels = ks.map Key.label :=
  exists_map_of_forall Key.label_of_ofLabel? fun l hl hnone =>
    (not_isKeyLabel_iff l).2 hnone (h l hl)

/-! ## Pressing labels -/

/-- The outcomes that the display has a text for: a value, a division by zero, and a value that is
not finite. An operator without its operands and a text that does not read are not among them. -/
inductive IsLabelled : Except EvaluationError Float → Prop
  | value (v : Float) : IsLabelled (.ok v)
  | divisionByZero (v : Float) : IsLabelled (.error (.divisionByZero v))
  | notFinite (v : Float) : IsLabelled (.error (.notFinite v))

namespace Calculator

theorem pressLabel_label (c : Calculator) (k : Key) : c.pressLabel k.label = .ok (c.press k) := by
  rw [pressLabel, Key.ofLabel?_label]

theorem foldlM_pressLabel_labels (c : Calculator) (ks : List Key) :
    (ks.map Key.label).foldlM pressLabel c = .ok (c.pressAll ks) := by
  induction ks generalizing c with
  | nil => rfl
  | cons k ks ih =>
    rw [List.map_cons, List.foldlM_cons, pressLabel_label]
    exact ih (c.press k)

theorem pressLabels_append (c : Calculator) (ks : List Key) (labels : List String) :
    c.pressLabels (ks.map Key.label ++ labels) = (c.pressAll ks).pressLabels labels := by
  induction ks generalizing c with
  | nil => rfl
  | cons k ks ih =>
    rw [List.map_cons, List.cons_append, pressLabels, Key.ofLabel?_label]
    exact ih (c.press k)

theorem pressLabels_of_not_isKeyLabel {l : String} (h : ¬IsKeyLabel l) (c : Calculator)
    (behind : List String) : c.pressLabels (l :: behind) = (c, some ⟨l⟩) := by
  rw [pressLabels, (not_isKeyLabel_iff l).1 h]

theorem pressLabel_of_not_isKeyLabel {l : String} (h : ¬IsKeyLabel l) (c : Calculator) :
    c.pressLabel l = .error ⟨l⟩ := by
  rw [pressLabel, (not_isKeyLabel_iff l).1 h]

/-- A row of labels is taken exactly if every one of them belongs to a key. -/
theorem pressLabels_eq_none_iff (c : Calculator) (labels : List String) :
    (c.pressLabels labels).2 = none ↔ ∀ l ∈ labels, IsKeyLabel l := by
  rcases exists_map_or_append Key.label_of_ofLabel? labels with
    ⟨ks, rfl⟩ | ⟨ks, l, behind, rfl, hl⟩
  · refine iff_of_true ?_ ?_
    · rw [pressLabels_labels]
    · exact List.forall_mem_map.2 fun k _ => isKeyLabel_label k
  · have hunknown : ¬IsKeyLabel l := (not_isKeyLabel_iff l).2 hl
    refine iff_of_false ?_ fun hall => hunknown (hall l (by simp))
    rw [pressLabels_append, pressLabels_of_not_isKeyLabel hunknown]
    simp

/-! ## What is evaluated -/

theorem isLabelled_compute {ts : List Token} (h : Token.IsRow ts)
    (hends : Token.endsWithNumber ts = true) :
    IsLabelled (compute (joinTexts (Token.texts ts))) := by
  obtain ⟨e, -, rfl⟩ := h.exists_expression hends
  rcases valueOf_cases (Expression.ofText_joinTexts e) with
    ⟨v, -, -, hv⟩ | ⟨v, -, -, hv⟩ | ⟨v, hv⟩
  · rw [hv]
    exact .value v
  · rw [hv]
    exact .notFinite v
  · rw [hv]
    exact .divisionByZero v

theorem isRow_afterAll (calls : List Call) : Token.IsRow (initial.afterAll calls).tokens := by
  obtain ⟨ks, hks⟩ := initial.exists_pressAll_afterAll calls
  rw [hks]
  exact isRow_initial_pressAll ks

/-! ## Any state -/

/-- What a calculator makes of labels, a row of them compared with the labels one by one. -/
structure RefusesUnknown (c : Calculator) : Prop where
  takes_iff : ∀ labels, (c.pressLabels labels).2 = none ↔ ∀ l ∈ labels, IsKeyLabel l
  takes : ∀ labels, (∀ l ∈ labels, IsKeyLabel l) →
    ∃ d, labels.foldlM pressLabel c = .ok d ∧ c.pressLabels labels = (d, none)
  /-- The first unknown label is named, and nothing is done from there on. -/
  refuses : ∀ before l behind, (∀ b ∈ before, IsKeyLabel b) → ¬IsKeyLabel l →
    ∃ d, before.foldlM pressLabel c = .ok d ∧
      c.pressLabels (before ++ l :: behind) = (d, some ⟨l⟩)
  unknown : ∀ l, ¬IsKeyLabel l → c.pressLabel l = .error ⟨l⟩ ∧ c.after (.press l) = c
  /-- No key fails, and neither does the evaluation behind it: there is nothing to evaluate, or what
  comes of it has a text. -/
  known : ∀ l, IsKeyLabel l → ∃ d, c.pressLabel l = .ok d ∧
    if Token.endsWithNumber d.tokens then
      IsLabelled (compute (joinTexts d.display.tokens)) ∧
        d.result = evaluate (joinTexts d.display.tokens)
    else d.result = ""

/-- Whatever was asked of a calculator before, the labels on the keypad are those that it takes, and
no others change anything. -/
theorem refusesUnknown_afterAll (calls : List Call) : RefusesUnknown (initial.afterAll calls) := by
  let c := initial.afterAll calls
  refine ⟨c.pressLabels_eq_none_iff, ?_, ?_, ?_, ?_⟩
  · intro labels hlabels
    obtain ⟨ks, rfl⟩ := exists_labels hlabels
    exact ⟨_, c.foldlM_pressLabel_labels ks, c.pressLabels_labels ks⟩
  · intro before l behind hbefore hl
    obtain ⟨ks, rfl⟩ := exists_labels hbefore
    refine ⟨_, c.foldlM_pressLabel_labels ks, ?_⟩
    rw [pressLabels_append, pressLabels_of_not_isKeyLabel hl]
  · intro l hl
    have hpress := c.pressLabel_of_not_isKeyLabel hl
    exact ⟨hpress, by rw [after, hpress]⟩
  · intro l hl
    obtain ⟨k, rfl⟩ := (isKeyLabel_iff l).1 hl
    refine ⟨_, c.pressLabel_label k, ?_⟩
    have hsettled : Settled (c.press k) := (settled_initial.afterAll calls).press k
    have hrow : Token.IsRow (c.press k).tokens := isRow_press (isRow_afterAll calls) k
    rw [hsettled.result_eq]
    split
    · next hends => exact ⟨isLabelled_compute hrow hends, liveResult_of_endsWithNumber hends⟩
    · next hends => exact if_neg hends

/-- Behind a finished division by zero `1` begins a new expression, and `12` is no label. -/
theorem refusesUnknown_eight_by_zero :
    let c := initial.afterAll [.pressMany ["8", "/", "0", "="]]
    c.mode = .evaluated ∧ ∃ d, ["1"].foldlM pressLabel c = .ok d ∧
      c.pressLabels ["1", "12", "C"] = (d, some ⟨"12"⟩) ∧ d.display.tokens = ["1"] := by
  intro c
  have hrefuses := (refusesUnknown_afterAll [.pressMany ["8", "/", "0", "="]]).refuses
  obtain ⟨d, hd, hpress⟩ := hrefuses ["1"] "12" ["C"] (by decide) (by decide)
  have htokens : d.display.tokens = ["1"] := by
    obtain rfl := Except.ok.inj hd
    rfl
  exact ⟨rfl, d, hd, hpress, htokens⟩

end Calculator

end PocketCalculator
