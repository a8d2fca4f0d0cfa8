import Mathlib.Data.List.Basic
import PocketCalculator.Proofs.DisplayLines
import PocketCalculator.Proofs.FailureLabels

/-!
# What the accumulator line says

The accumulator line holds the tokens, and behind a finished evaluation an equals sign and the
result. No token and no result has an equals sign in it, so that the whole state of a calculator can
be read from this line. Main statement: `accumulator_afterAll`.
-/

namespace PocketCalculator

/-! ## Reading tokens back -/

theorem joinTexts_texts_injective :
    Function.Injective fun ts : List Token => joinTexts (Token.texts ts) := by
  intro ts us h
  have hwords := congrArg (fun s : String => (words s.toList).map String.ofList) h
  simp only [words_joinTexts] at hwords
  exact Token.texts_injective hwords

/-! ## The equals sign -/

theorem equals_notMem_text (t : Token) : '=' ∉ t.text.toList := by
  cases t with
  | number n =>
    intro h
    rw [Token.text, Numeral.text, String.toList_ofList] at h
    exact absurd (map_toChar_subset n.digits h) (by decide)
  | operator o => cases o <;> decide

/-- A sign that is no blank stands in a joined text only if it stands in a token. -/
theorem equals_notMem_joinTexts (ts : List Token) :
    '=' ∉ (joinTexts (Token.texts ts)).toList := by
  intro h
  have hfilter : '=' ∈ (joinTexts (Token.texts ts)).toList.filter (!isBlank ·) :=
    List.mem_filter.2 ⟨h, by decide⟩
  rw [← flatten_words, List.mem_flatten] at hfilter
  obtain ⟨w, hw, hequals⟩ := hfilter
  have htext : String.ofList w ∈ Token.texts ts := by
    rw [← words_joinTexts ts]
    exact List.mem_map.2 ⟨w, hw, rfl⟩
  obtain ⟨t, -, ht⟩ := List.mem_map.1 htext
  apply equals_notMem_text t
  rwa [ht, String.toList_ofList]

theorem equals_notMem_evaluate (text : String) : '=' ∉ (evaluate text).toList := by
  cases hcompute : compute text with
  | ok v =>
    rw [evaluate_of_ok hcompute]
    intro h
    exact absurd (displayText_subset v h) (by decide)
  | error e =>
    rw [evaluate_of_error hcompute, failureLabel]
    split <;> decide

/-- Where a text is frozen with its result can be seen if neither of them has an equals sign. -/
theorem frozen_inj {s t s' t' : String} (hs : '=' ∉ s.toList) (ht : '=' ∉ t.toList)
    (h : s ++ " = " ++ t = s' ++ " = " ++ t') : s = s' ∧ t = t' := by
  have hsign : " = ".toList = [' ', '=', ' '] := by decide
  have hchars : (s.toList ++ [' ']) ++ '=' :: (' ' :: t.toList) =
      (s'.toList ++ [' ']) ++ '=' :: (' ' :: t'.toList) := by
    have htoList := congrArg String.toList h
    simpa [String.toList_append, hsign] using htoList
  have hfront : '=' ∉ s.toList ++ [' '] := by simpa using hs
  have hback : '=' ∉ ' ' :: t.toList := by simpa using ht
  obtain ⟨hs', -, ht'⟩ := (List.append_cons_inj_of_notMem hfront hback).1 hchars
  refine ⟨String.toList_inj.1 ?_, String.toList_inj.1 ?_⟩
  · exact List.append_cancel_right hs'
  · exact (List.cons.inj ht').2

/-! ## States read from the accumulator line -/

namespace Calculator

theorem Settled.equals_notMem_result {c : Calculator} (h : Settled c) :
    '=' ∉ c.result.toList := by
  rw [h.result_eq, liveResult]
  split
  · exact equals_notMem_evaluate _
  · decide

theorem Settled.accumulator_of_evaluated {c : Calculator} (h : Settled c)
    (hm : c.mode = .evaluated) :
    c.accumulator = joinTexts (Token.texts c.tokens) ++ " = " ++ c.result := by
  rw [(h.of_evaluated hm).2, frozenText_eq]

theorem Settled.mode_eq_evaluated_iff {c : Calculator} (h : Settled c) :
    c.mode = .evaluated ↔ '=' ∈ c.accumulator.toList := by
  cases hm : c.mode with
  | entering =>
    refine iff_of_false (by decide) ?_
    rw [h.accumulator_of_entering hm]
    exact equals_notMem_joinTexts c.tokens
  | evaluated =>
    refine iff_of_true rfl ?_
    rw [h.accumulator_of_evaluated hm]
    simp

theorem Settled.mode_eq_of_accumulator_eq {c d : Calculator} (hc : Settled c) (hd : Settled d)
    (h : c.accumulator = d.accumulator) : c.mode = d.mode := by
  have hiff : c.mode = .evaluated ↔ d.mode = .evaluated := by
    rw [hc.mode_eq_evaluated_iff, hd.mode_eq_evaluated_iff, h]
  cases hd' : d.mode with
  | evaluated => exact hiff.2 hd'
  | entering =>
    cases hc' : c.mode with
    | entering => rfl
    | evaluated => exact absurd (hd'.symm.trans (hiff.1 hc')) (by decide)

theorem Settled.tokens_eq_of_accumulator_eq {c d : Calculator} (hc : Settled c) (hd : Settled d)
    (h : c.accumulator = d.accumulator) : c.tokens = d.tokens := by
  have hmode := hc.mode_eq_of_accumulator_eq hd h
  apply joinTexts_texts_injective
  cases hm : c.mode with
  | entering =>
    rw [hm] at hmode
    rwa [hc.accumulator_of_entering hm, hd.accumulator_of_entering hmode.symm] at h
  | evaluated =>
    rw [hm] at hmode
    rw [hc.accumulator_of_evaluated hm, hd.accumulator_of_evaluated hmode.symm] at h
    exact (frozen_inj (equals_notMem_joinTexts c.tokens) hc.equals_notMem_result h).1

theorem Settled.eq_of_accumulator_eq {c d : Calculator} (hc : Settled c) (hd : Settled d)
    (h : c.accumulator = d.accumulator) : c = d := by
  have hmode := hc.mode_eq_of_accumulator_eq hd h
  have htokens := hc.tokens_eq_of_accumulator_eq hd h
  have hresult : c.result = d.result := by rw [hc.result_eq, hd.result_eq, htokens]
  cases c
  cases d
  congr

/-- However a frozen line is split at an equals sign, the tokens and the result are found. -/
theorem Settled.of_split {c : Calculator} (h : Settled c) (hm : c.mode = .evaluated)
    {front back : String} (hsplit : c.accumulator = front ++ " = " ++ back) :
    (words front.toList).map String.ofList = c.display.tokens ∧ back = c.result := by
  rw [h.accumulator_of_evaluated hm] at hsplit
  obtain ⟨rfl, rfl⟩ := frozen_inj (equals_notMem_joinTexts c.tokens) h.equals_notMem_result hsplit
  exact ⟨words_joinTexts c.tokens, rfl⟩

/-- Two calculators that show the same accumulator line are in the same state, whatever was asked of
them. The line of a finished evaluation is the one with an equals sign. It can be split there, in
one way only, and then it has the tokens in front and the result behind. -/
theorem accumulator_afterAll (calls others : List Call) :
    let c := initial.afterAll calls
    (c.accumulator = (initial.afterAll others).accumulator → c = initial.afterAll others) ∧
    (c.mode = .evaluated ↔ '=' ∈ c.accumulator.toList) ∧
    (c.mode = .evaluated →
      (∃ front back, c.accumulator = front ++ " = " ++ back) ∧
        ∀ front back, c.accumulator = front ++ " = " ++ back →
          (words front.toList).map String.ofList = c.display.tokens ∧ back = c.result) := by
  intro c
  have hc : Settled c := settled_initial.afterAll calls
  refine ⟨hc.eq_of_accumulator_eq (settled_initial.afterAll others), hc.mode_eq_evaluated_iff, ?_⟩
  intro hm
  refine ⟨⟨_, _, hc.accumulator_of_evaluated hm⟩, ?_⟩
  intro front back hsplit
  exact hc.of_split hm hsplit

/-- Different keys, the same line. -/
theorem accumulator_two_plus_three :
    let c := initial.afterAll [.pressMany ["2", "+", "3", "="]]
    let d := initial.afterAll [.press "2", .press "/", .pressMany ["+", "0", "3", "x"],
      .press "=", .press "="]
    c.accumulator = "2 + 3 = 5" ∧ c = d ∧ c.mode = .evaluated ∧
      c.display.tokens = ["2", "+", "3"] ∧ c.result = "5" := by
  intro c d
  obtain ⟨heq, hmode, hsplit⟩ := accumulator_afterAll [.pressMany ["2", "+", "3", "="]]
    [.press "2", .press "/", .pressMany ["+", "0", "3", "x"], .press "=", .press "="]
  have hline : c.accumulator = "2 + 3 = 5" := by decide +kernel
  have hother : d.accumulator = "2 + 3 = 5" := by decide +kernel
  have hevaluated : c.mode = .evaluated := hmode.2 (hline ▸ by decide)
  obtain ⟨htokens, hresult⟩ := (hsplit hevaluated).2 "2 + 3" "5" (hline.trans (by decide))
  have hwords : (words "2 + 3".toList).map String.ofList = ["2", "+", "3"] := by decide
  exact ⟨hline, heq (hline.trans hother.symm), hevaluated, htokens.symm.trans hwords, hresult.symm⟩

end Calculator

end PocketCalculator
