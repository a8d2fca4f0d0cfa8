import PocketCalculator.Proofs.ExpressionTexts

/-!
# The order of tokens behind the reordering

Any row of texts is reordered, whether or not it is an expression, as long as every text is a
numeral or an operator. No token gets lost. A numeral stays in front of all that comes behind it,
and an operator stays in front of every later one that does not bind tighter. Main statement:
`reversePolishTexts_arbitrary`.

## Main definitions

* `reorderPlaced` — the reordering of tokens together with the places they come from.
* `StaysAhead` — which tokens are not overtaken.
* `IsReordering` — what is expected of the order.
-/

namespace PocketCalculator

open scoped List

/-! ## Tokens with their places -/

/-- An operator that waits, with its place, as a token. -/
def waitingToken (p : Operator × ℕ) : Token × ℕ := (.operator p.1, p.2)

/-- Reorders tokens together with the places they come from. -/
def reorderPlaced (waiting : List (Operator × ℕ)) : List (Token × ℕ) → List (Token × ℕ)
  | [] => waiting.map waitingToken
  | (.number n, i) :: r => (.number n, i) :: reorderPlaced waiting r
  | (.operator o, i) :: r =>
    (waiting.takeWhile (o.precedence ≤ ·.1.precedence)).map waitingToken ++
      reorderPlaced ((o, i) :: waiting.dropWhile (o.precedence ≤ ·.1.precedence)) r

/-- The places make no difference to the order. -/
theorem map_fst_reorderPlaced (waiting : List (Operator × ℕ)) (r : List (Token × ℕ)) :
    (reorderPlaced waiting r).map Prod.fst = reorder (waiting.map Prod.fst) (r.map Prod.fst) := by
  fun_induction reorderPlaced waiting r with
  | case1 waiting => simp [reorder, waitingToken]
  | case2 waiting n i r ih => simp [reorder, ih]
  | case3 waiting o i r ih =>
    simp [reorder, ih, waitingToken, List.takeWhile_map, List.dropWhile_map, Function.comp_def]

theorem reorderPlaced_perm (waiting : List (Operator × ℕ)) (r : List (Token × ℕ)) :
    (reorderPlaced waiting r).Perm (waiting.map waitingToken ++ r) := by
  fun_induction reorderPlaced waiting r with
  | case1 waiting => simp
  | case2 waiting n i r ih => exact (ih.cons _).trans List.perm_middle.symm
  | case3 waiting o i r ih =>
    have hsplit : waiting.map waitingToken =
        (waiting.takeWhile (o.precedence ≤ ·.1.precedence)).map waitingToken ++
          (waiting.dropWhile (o.precedence ≤ ·.1.precedence)).map waitingToken := by
      rw [← List.map_append, List.takeWhile_append_dropWhile]
    rw [hsplit, List.append_assoc]
    exact (ih.trans List.perm_middle.symm).append_left _

/-! ## What is not overtaken -/

/-- Whether a token stays in front of another one that comes later. -/
def StaysAhead : Token → Token → Prop
  | .number _, _ => True
  | .operator _, .number _ => False
  | .operator o, .operator p => p.precedence ≤ o.precedence

/-- Operators wait with strictly rising precedence towards the top, so that what lies below one that
stays binds looser as well. -/
theorem precedence_lt_of_mem_dropWhile {waiting : List (Operator × ℕ)} {o : Operator}
    (hrising : waiting.Pairwise fun p q => q.1.precedence < p.1.precedence) :
    ∀ p ∈ waiting.dropWhile (o.precedence ≤ ·.1.precedence), p.1.precedence < o.precedence := by
  induction waiting with
  | nil => simp
  | cons top waiting ih =>
    obtain ⟨htop, hbelow⟩ := List.pairwise_cons.1 hrising
    by_cases ho : o.precedence ≤ top.1.precedence
    · simpa [ho] using ih hbelow
    · intro p hp
      rw [List.dropWhile_cons_of_neg (by simpa using ho)] at hp
      rcases List.mem_cons.1 hp with rfl | hp
      · omega
      · have hlt := htop p hp
        omega

/-- Of two operators that wait, the lower one binds looser and does not have to go first. -/
theorem pairwise_map_waitingToken {waiting : List (Operator × ℕ)}
    (hrising : waiting.Pairwise fun p q => q.1.precedence < p.1.precedence) :
    (waiting.map waitingToken).Pairwise fun x y => y.2 < x.2 → ¬StaysAhead y.1 x.1 := by
  rw [List.pairwise_map]
  apply hrising.imp
  intro p q hlt _ (hahead : p.1.precedence ≤ q.1.precedence)
  omega

/-- A token is never put in front of an earlier one that stays ahead of it. -/
theorem pairwise_reorderPlaced {waiting : List (Operator × ℕ)} {r : List (Token × ℕ)}
    (hrising : waiting.Pairwise fun p q => q.1.precedence < p.1.precedence)
    (hearlier : ∀ p ∈ waiting, ∀ x ∈ r, p.2 < x.2) (hr : r.Pairwise fun x y => x.2 < y.2) :
    (reorderPlaced waiting r).Pairwise fun x y => y.2 < x.2 → ¬StaysAhead y.1 x.1 := by
  fun_induction reorderPlaced waiting r with
  | case1 waiting => exact pairwise_map_waitingToken hrising
  | case2 waiting n i r ih =>
    obtain ⟨hn, hr⟩ := List.pairwise_cons.1 hr
    refine List.pairwise_cons.2 ⟨?_, ih hrising ?_ hr⟩
    · intro y hy hlt hahead
      rcases List.mem_append.1 ((reorderPlaced_perm waiting r).mem_iff.1 hy) with hy | hy
      · obtain ⟨p, -, rfl⟩ := List.mem_map.1 hy
        exact hahead
      · have hlater := hn y hy
        omega
    · intro p hp x hx
      exact hearlier p hp x (List.mem_cons_of_mem _ hx)
  | case3 waiting o i r ih =>
    obtain ⟨ho, hr⟩ := List.pairwise_cons.1 hr
    have hwaiting := List.takeWhile_append_dropWhile (p := (o.precedence ≤ ·.1.precedence))
      (l := waiting)
    generalize waiting.takeWhile (o.precedence ≤ ·.1.precedence) = popped at hwaiting
    have hkept := precedence_lt_of_mem_dropWhile (o := o) hrising
    generalize waiting.dropWhile (o.precedence ≤ ·.1.precedence) = kept at hwaiting hkept ih
    subst hwaiting
    obtain ⟨hpopped, hbelow, hcross⟩ := List.pairwise_append.1 hrising
    refine List.pairwise_append.2 ⟨pairwise_map_waitingToken hpopped, ih ?_ ?_ hr, ?_⟩
    · exact List.pairwise_cons.2 ⟨hkept, hbelow⟩
    · intro p hp x hx
      rcases List.mem_cons.1 hp with rfl | hp
      · exact ho x hx
      · exact hearlier p (List.mem_append_right _ hp) x (List.mem_cons_of_mem _ hx)
    · intro x hx y hy hlt hahead
      obtain ⟨p, hp, rfl⟩ := List.mem_map.1 hx
      have hp' := List.mem_append_left kept hp
      rcases List.mem_append.1 ((reorderPlaced_perm _ r).mem_iff.1 hy) with hy | hy
      · obtain ⟨q, hq, rfl⟩ := List.mem_map.1 hy
        rcases List.mem_cons.1 hq with rfl | hq
        · -- The operator that is read comes later than all that wait.
          have hlater := hearlier p hp' _ List.mem_cons_self
          exact absurd hlt (by simpa [waitingToken] using hlater.le)
        · have hprecedence := hcross p hp q hq
          exact absurd hahead (by simpa [StaysAhead, waitingToken] using hprecedence)
      · have hlater := hearlier p hp' y (List.mem_cons_of_mem _ hy)
        exact absurd hlt (by simpa [waitingToken] using hlater.le)

/-! ## Places in the order of the output -/

theorem pair_sublist_or {α : Type} {a b : α} {l : List α} (ha : a ∈ l) (hb : b ∈ l) (hne : a ≠ b) :
    [a, b] <+ l ∨ [b, a] <+ l := by
  obtain ⟨s, t, rfl⟩ := List.append_of_mem ha
  rcases List.mem_append.1 hb with hb | hb
  · exact .inr ((List.singleton_sublist.2 hb).append (List.singleton_sublist.2 List.mem_cons_self))
  · have hbt : b ∈ t := (List.mem_cons.1 hb).resolve_left hne.symm
    exact .inl (((List.singleton_sublist.2 hbt).cons_cons a).trans (List.sublist_append_right s _))

theorem map_fst_reorderPlaced_zipIdx (ts : List Token) :
    (reorderPlaced [] ts.zipIdx).map Prod.fst = reversePolish ts := by
  rw [map_fst_reorderPlaced, List.zipIdx_map_fst]
  rfl

/-- No token is lost. -/
theorem reversePolish_perm (ts : List Token) : (reversePolish ts).Perm ts := by
  have hplaced := (reorderPlaced_perm [] ts.zipIdx).map Prod.fst
  rw [map_fst_reorderPlaced_zipIdx] at hplaced
  simpa using hplaced

/-- The places of the tokens, in the order in which the tokens come out. -/
theorem exists_places (ts : List Token) :
    ∃ places : List ℕ, places.Perm (List.range ts.length) ∧
      (reversePolish ts).map some = places.map (ts[·]?) ∧
      ∀ i j x y, i < j → ts[i]? = some x → ts[j]? = some y → StaysAhead x y →
        [i, j] <+ places := by
  let placed := reorderPlaced [] ts.zipIdx
  have hperm : placed.Perm ts.zipIdx := reorderPlaced_perm [] ts.zipIdx
  have hmem (x : Token) (i : ℕ) : (x, i) ∈ placed ↔ ts[i]? = some x := by
    rw [hperm.mem_iff, List.mem_zipIdx_iff_getElem?]
  have hordered : placed.Pairwise fun x y => y.2 < x.2 → ¬StaysAhead y.1 x.1 := by
    refine pairwise_reorderPlaced List.Pairwise.nil (by simp) ?_
    rw [← List.pairwise_map, List.zipIdx_map_snd]
    exact List.pairwise_lt_range'
  refine ⟨placed.map Prod.snd, ?_, ?_, ?_⟩
  · have hplaces := hperm.map Prod.snd
    rwa [List.zipIdx_map_snd, ← List.range_eq_range'] at hplaces
  · rw [← map_fst_reorderPlaced_zipIdx, List.map_map, List.map_map]
    apply List.map_congr_left
    rintro ⟨x, i⟩ hx
    exact ((hmem x i).1 hx).symm
  · intro i j x y hij hx hy hahead
    have hne : (x, i) ≠ (y, j) := by
      intro heq
      have hplaces := congrArg Prod.snd heq
      omega
    rcases pair_sublist_or ((hmem x i).2 hx) ((hmem y j).2 hy) hne with hsub | hsub
    · exact hsub.map Prod.snd
    · exact absurd hahead (List.pairwise_iff_forall_sublist.1 hordered hsub hij)

/-! ## Texts of any kind -/

def IsTokenText (s : String) : Prop := IsNumeralText s ∨ IsOperatorText s

theorem isTokenText_iff (s : String) : IsTokenText s ↔ ∃ k, Token.ofText? s = some k := by
  constructor
  · rintro (hnumeral | hoperator)
    · obtain ⟨n, rfl⟩ := exists_numeral_of_isDigit hnumeral.1 hnumeral.2
      exact ⟨.number n, Token.ofText?_text (.number n)⟩
    · obtain ⟨o, rfl⟩ := (isOperatorText_iff s).1 hoperator
      exact ⟨.operator o, Token.ofText?_text (.operator o)⟩
  · rintro ⟨k, hk⟩
    rw [← Token.text_of_ofText? hk]
    cases k with
    | number n => exact .inl ⟨n.text_ne_empty, n.isDigit_of_mem_text⟩
    | operator o => exact .inr ((isOperatorText_iff _).2 ⟨o, rfl⟩)

/-- The first text that is neither a numeral nor an operator. -/
def IsFirstUnknown (ts : List String) (s : String) : Prop :=
  ∃ before behind, ts = before ++ s :: behind ∧ (∀ t ∈ before, IsTokenText t) ∧ ¬IsTokenText s

theorem isFirstUnknown_iff (ts : List String) (s : String) :
    IsFirstUnknown ts s ↔ ts.find? (fun t => (Token.ofText? t).isNone) = some s := by
  rw [List.find?_eq_some_iff_append]
  simp only [IsFirstUnknown, isTokenText_iff, Option.isNone_iff_eq_none, Bool.not_eq_true',
    Option.isNone_eq_false_iff, Option.isSome_iff_exists, Option.eq_none_iff_forall_ne_some, ne_eq,
    not_exists]
  constructor
  · rintro ⟨before, behind, hts, hbefore, hs⟩
    exact ⟨hs, before, behind, hts, hbefore⟩
  · rintro ⟨hs, before, behind, hts, hbefore⟩
    exact ⟨before, behind, hts, hbefore, hs⟩

theorem IsFirstUnknown.unique {ts : List String} {s s' : String} (h : IsFirstUnknown ts s)
    (h' : IsFirstUnknown ts s') : s = s' := by
  rw [isFirstUnknown_iff] at h h'
  exact Option.some.inj (h.symm.trans h')

theorem IsFirstUnknown.exists_mem {ts : List String} {s : String} (h : IsFirstUnknown ts s) :
    ∃ t ∈ ts, ¬IsTokenText t := by
  obtain ⟨before, behind, rfl, -, hs⟩ := h
  exact ⟨s, by simp, hs⟩

theorem isTokenText_of_mem_texts (ks : List Token) : ∀ t ∈ Token.texts ks, IsTokenText t := by
  intro t ht
  obtain ⟨k, -, rfl⟩ := List.mem_map.1 ht
  exact (isTokenText_iff _).2 ⟨k, Token.ofText?_text k⟩

/-- Every text is a token, or one is the first that is not. -/
theorem reversePolishTexts_cases (ts : List String) :
    (∃ ks, Token.texts ks = ts ∧
        reversePolishTexts ts = .ok (Token.texts (reversePolish ks))) ∨
      ∃ s, IsFirstUnknown ts s ∧ reversePolishTexts ts = .error ⟨s⟩ := by
  have hread : (∃ ks, Token.texts ks = ts) ∨
      ∃ s, IsFirstUnknown ts s ∧ ts.mapM readToken = .error ⟨s⟩ := by
    induction ts with
    | nil => exact .inl ⟨[], rfl⟩
    | cons t ts ih =>
      cases ht : Token.ofText? t with
      | none =>
        have hunknown : ¬IsTokenText t := by simp [isTokenText_iff, ht]
        refine .inr ⟨t, ⟨[], ts, rfl, by simp, hunknown⟩, ?_⟩
        rw [List.mapM_cons, readToken, ht]
        rfl
      | some k =>
        rcases ih with ⟨ks, rfl⟩ | ⟨s, ⟨before, behind, rfl, hbefore, hs⟩, herror⟩
        · exact .inl ⟨k :: ks, congrArg (· :: Token.texts ks) (Token.text_of_ofText? ht)⟩
        · have hknown : IsTokenText t := (isTokenText_iff t).2 ⟨k, ht⟩
          refine .inr ⟨s, ⟨t :: before, behind, rfl, List.forall_mem_cons.2 ⟨hknown, hbefore⟩, hs⟩,
            ?_⟩
          rw [List.mapM_cons, readToken, ht, herror]
          rfl
  rcases hread with ⟨ks, rfl⟩ | ⟨s, hs, herror⟩
  · exact .inl ⟨ks, rfl, reversePolishTexts_texts ks⟩
  · refine .inr ⟨s, hs, ?_⟩
    rw [reversePolishTexts, herror]
    rfl

/-- What is expected of the order: every text comes out once, and the places of the texts, listed in
the order in which they come out, keep those in order that do not overtake each other. -/
structure IsReordering (ts out : List String) : Prop where
  perm : out.Perm ts
  places : ∃ places : List ℕ, places.Perm (List.range ts.length) ∧
    out.map some = places.map (ts[·]?) ∧
    (∀ i j t, i < j → j < ts.length → ts[i]? = some t → IsNumeralText t → [i, j] <+ places) ∧
    ∀ i j (o p : Operator), i < j → ts[i]? = some o.text → ts[j]? = some p.text →
      p.precedence ≤ o.precedence → [i, j] <+ places

theorem isReordering_reversePolish (ks : List Token) :
    IsReordering (Token.texts ks) (Token.texts (reversePolish ks)) := by
  obtain ⟨places, hperm, htokens, hahead⟩ := exists_places ks
  have htext (i : ℕ) : (Token.texts ks)[i]? = ks[i]?.map Token.text := List.getElem?_map
  have hlength : (Token.texts ks).length = ks.length := List.length_map _
  refine ⟨?_, places, by rwa [hlength], ?_, ?_, ?_⟩
  · exact (reversePolish_perm ks).map Token.text
  · have htexts := congrArg (List.map (Option.map Token.text)) htokens
    simpa [Token.texts, Function.comp_def] using htexts
  · intro i j t hij hj hi hnumeral
    rw [hlength] at hj
    rw [htext, Option.map_eq_some_iff] at hi
    obtain ⟨x, hx, rfl⟩ := hi
    refine hahead i j x _ hij hx (List.getElem?_eq_getElem hj) ?_
    cases x with
    | number n => trivial
    | operator o =>
      obtain ⟨n, hn⟩ := exists_numeral_of_isDigit hnumeral.1 hnumeral.2
      have hsame : (Token.number n).text = (Token.operator o).text := hn
      cases Token.text_injective hsame
  · intro i j o p hij hi hj hprecedence
    rw [htext, Option.map_eq_some_iff] at hi hj
    obtain ⟨x, hx, ho⟩ := hi
    obtain ⟨y, hy, hp⟩ := hj
    obtain rfl : x = .operator o := Token.text_injective ho
    obtain rfl : y = .operator p := Token.text_injective hp
    exact hahead i j _ _ hij hx hy hprecedence

/-- Any row of texts is reordered unless one of them is no token. The first such text is reported,
and otherwise no token is lost and none is overtaken that should stay ahead. -/
theorem reversePolishTexts_arbitrary (ts : List String) :
    (∀ e, reversePolishTexts ts = .error e ↔ IsFirstUnknown ts e.text) ∧
    ((∃ e, reversePolishTexts ts = .error e) ↔ ∃ t ∈ ts, ¬IsTokenText t) ∧
    ((∃ out, reversePolishTexts ts = .ok out) ↔ ∀ t ∈ ts, IsTokenText t) ∧
    ∀ out, reversePolishTexts ts = .ok out → IsReordering ts out := by
  rcases reversePolishTexts_cases ts with ⟨ks, rfl, hout⟩ | ⟨s, hs, herror⟩
  · have hknown := isTokenText_of_mem_texts ks
    have hnone : ¬∃ t ∈ Token.texts ks, ¬IsTokenText t :=
      fun ⟨t, ht, hunknown⟩ => hunknown (hknown t ht)
    rw [hout]
    refine ⟨?_, ?_, ?_, ?_⟩
    · exact fun e => iff_of_false (by simp) fun hs => hnone hs.exists_mem
    · exact iff_of_false (by simp) hnone
    · exact iff_of_true ⟨_, rfl⟩ hknown
    · intro out heq
      obtain rfl := Except.ok.inj heq
      exact isReordering_reversePolish ks
  · obtain ⟨t, ht, hunknown⟩ := hs.exists_mem
    rw [herror]
    refine ⟨?_, ?_, ?_, ?_⟩
    · rintro ⟨u⟩
      constructor
      · intro heq
        obtain rfl : s = u := congrArg UnknownToken.text (Except.error.inj heq)
        exact hs
      · intro hu
        rw [hs.unique hu]
    · exact iff_of_true ⟨_, rfl⟩ ⟨t, ht, hunknown⟩
    · exact iff_of_false (by simp) fun hknown => hunknown (hknown t ht)
    · intro out heq
      cases heq

/-- A row that is no expression: the first operator waits for the end, and the other two do not. -/
theorem reversePolishTexts_arbitrary_doubled :
    let ts := ["+", "7", "8", "*", "/"]
    reversePolishTexts ts = .ok ["7", "8", "*", "/", "+"] ∧
      IsReordering ts ["7", "8", "*", "/", "+"] ∧
      reversePolishTexts ["7", "x", "y"] = .error ⟨"x"⟩ := by
  intro ts
  have hout : reversePolishTexts ts = .ok ["7", "8", "*", "/", "+"] := by rfl
  exact ⟨hout, (reversePolishTexts_arbitrary ts).2.2.2 _ hout, by rfl⟩

end PocketCalculator
