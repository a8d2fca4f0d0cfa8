import Mathlib.Data.List.DropRight
import Mathlib.Data.List.SplitBy
import PocketCalculator.Calculator

/-!
# What a row of keys amounts to

A calculator changes its tokens key by key. Here the whole row of keys is read in one pass instead:
what stands before the last `C` is forgotten, every `=` that has nothing to evaluate is dropped, the
`=` that are left cut the row into segments, and one segment is normalised run by run. Main
statement: after every row of keys a new calculator has the tokens and the mode of that pass.

## Main definitions

* `History.keptKeys` — the keys behind the last `C`, without every `=` that has nothing to evaluate.
* `History.segment` — the segment that is on the display.
* `History.runs`, `History.segmentTokens` — the maximal runs of a segment and its tokens.
* `History.tokens`, `History.mode` — the outcome of the pass.
-/

namespace PocketCalculator

namespace History

/-! ## The pass over the whole row -/

/-- The keys behind the last `C`. -/
def sinceClear (ks : List Key) : List Key := ks.rtakeWhile (· ≠ .clear)

/-- Whether an `=` has nothing to evaluate, by the nearest key before it that is no `=`. -/
def isIdleBehind : Option Key → Bool
  | none => true
  | some (.operator _) => true
  | some _ => false

/-- Drops every `=` that has nothing to evaluate from keys that follow the key `before`. -/
def dropIdle (before : Option Key) : List Key → List Key
  | [] => []
  | k :: r =>
    if k ≠ .evaluate then k :: dropIdle (some k) r
    else if isIdleBehind before then dropIdle before r
    else k :: dropIdle before r

/-- The keys that count. Every `=` among them is a cut. -/
def keptKeys (ks : List Key) : List Key := dropIdle none (sinceClear ks)

/-- Evaluated when nothing follows the last cut. -/
def mode (ks : List Key) : Mode :=
  if (keptKeys ks).getLast? = some .evaluate then .evaluated else .entering

/-- What follows the last cut, or what stands before the final run of cuts if nothing does. -/
def segment (kept : List Key) : List Key :=
  if kept.getLast? = some .evaluate then
    (kept.rdropWhile (· = .evaluate)).rtakeWhile (· ≠ .evaluate)
  else kept.rtakeWhile (· ≠ .evaluate)

def isDigit : Key → Bool
  | .digit _ => true
  | _ => false

/-- The maximal runs of digits and of operators, in order. -/
def runs (s : List Key) : List (List Key) := s.splitBy fun j k => isDigit j == isDigit k

def digits (ks : List Key) : List Digit :=
  ks.filterMap fun
    | .digit d => some d
    | _ => none

def operators (ks : List Key) : List Operator :=
  ks.filterMap fun
    | .operator o => some o
    | _ => none

/-- A run of digits is one numeral, stripped as a whole. Of a run of operators the last counts. -/
def runTokens (run : List Key) : List Token :=
  if h : digits run ≠ [] then [.number (Numeral.strip ⟨digits run, h⟩)]
  else ((operators run).getLast?.map .operator).toList

/-- A run of operators with nothing before it counts only if a minus is among them. -/
def leadingTokens (run : List Key) : List Token :=
  if digits run ≠ [] then runTokens run
  else if .sub ∈ operators run then .number .zero :: runTokens run
  else []

def joinRuns : List (List Key) → List Token
  | [] => []
  | run :: rest => leadingTokens run ++ rest.flatMap runTokens

def segmentTokens (s : List Key) : List Token := joinRuns (runs s)

def tokens (ks : List Key) : List Token := segmentTokens (segment (keptKeys ks))

/-! ## Runs -/

theorem runs_concat_other {s : List Key} {j k : Key} (h : isDigit j ≠ isDigit k) :
    runs (s ++ [j] ++ [k]) = runs (s ++ [j]) ++ [[k]] := by
  rw [runs, List.splitBy_append_cons]
  · rfl
  · simpa using h

theorem runs_concat_same {s : List Key} {j k : Key} {rs : List (List Key)} {run : List Key}
    (hs : runs (s ++ [j]) = rs ++ [run ++ [j]]) (h : isDigit j = isDigit k) :
    runs (s ++ [j] ++ [k]) = rs ++ [run ++ [j] ++ [k]] := by
  unfold runs at hs ⊢
  rw [List.splitBy_eq_iff] at hs ⊢
  obtain ⟨hflat, hne, hchain, hcut⟩ := hs
  refine ⟨by simp [hflat], by simpa using hne, ?_, ?_⟩
  · intro m hm
    rcases List.mem_append.1 hm with hm | hm
    · exact hchain m (List.mem_append_left _ hm)
    · obtain rfl := List.mem_singleton.1 hm
      have hrun := hchain (run ++ [j]) (by simp)
      rw [List.isChain_append]
      exact ⟨hrun, .singleton k, by simpa using h⟩
  · rw [List.isChain_append] at hcut ⊢
    refine ⟨hcut.1, .singleton _, fun before hb last hl => ?_⟩
    obtain rfl := Option.some.inj hl
    obtain ⟨hne', hrun, hrel⟩ := hcut.2.2 before hb _ rfl
    refine ⟨hne', by simp, ?_⟩
    rwa [List.head_append_of_ne_nil hrun]

/-- The last run ends with the last key, and all of it is of one kind. -/
theorem exists_runs_concat (s : List Key) (j : Key) :
    ∃ rs run, runs (s ++ [j]) = rs ++ [run ++ [j]] ∧ ∀ k ∈ run, isDigit k = isDigit j := by
  induction s using List.reverseRecOn generalizing j with
  | nil => exact ⟨[], [], rfl, by simp⟩
  | append_singleton s i ih =>
    obtain ⟨rs, run, hruns, hrun⟩ := ih i
    by_cases h : isDigit i = isDigit j
    · refine ⟨rs, run ++ [i], runs_concat_same hruns h, ?_⟩
      simp_all [or_imp]
    · exact ⟨rs ++ [run ++ [i]], [], by rw [runs_concat_other h, hruns]; simp, by simp⟩

@[simp] theorem digits_nil : digits [] = [] := rfl

@[simp] theorem digits_cons_digit (d : Digit) (ks : List Key) :
    digits (.digit d :: ks) = d :: digits ks := rfl

@[simp] theorem digits_cons_operator (o : Operator) (ks : List Key) :
    digits (.operator o :: ks) = digits ks := rfl

@[simp] theorem digits_append (ks ls : List Key) : digits (ks ++ ls) = digits ks ++ digits ls :=
  List.filterMap_append

theorem digits_eq_nil {ks : List Key} (h : ∀ k ∈ ks, isDigit k = false) : digits ks = [] := by
  rw [digits, List.filterMap_eq_nil_iff]
  intro k hk
  have := h k hk
  cases k <;> simp_all [isDigit]

@[simp] theorem operators_nil : operators [] = [] := rfl

@[simp] theorem operators_cons_operator (o : Operator) (ks : List Key) :
    operators (.operator o :: ks) = o :: operators ks := rfl

@[simp] theorem operators_append (ks ls : List Key) :
    operators (ks ++ ls) = operators ks ++ operators ls :=
  List.filterMap_append

theorem runTokens_of_digits {run : List Key} (h : digits run ≠ []) :
    runTokens run = [.number (Numeral.strip ⟨digits run, h⟩)] := dif_pos h

theorem runTokens_concat_operator {run : List Key} (h : digits run = []) (o : Operator) :
    runTokens (run ++ [Key.operator o]) = [.operator o] := by
  simp [runTokens, h]

theorem joinRuns_leading {run : List Key} (h : digits run = []) :
    joinRuns [run] =
      if .sub ∈ operators run then .number .zero :: runTokens run else [] := by
  simp [joinRuns, leadingTokens, h]

theorem joinRuns_concat {rs : List (List Key)} (h : rs ≠ []) (run : List Key) :
    joinRuns (rs ++ [run]) = joinRuns rs ++ runTokens run := by
  obtain ⟨r, rest, rfl⟩ := List.exists_cons_of_ne_nil h
  simp [joinRuns]

theorem joinRuns_concat_digits {run : List Key} (h : digits run ≠ []) (rs : List (List Key)) :
    joinRuns (rs ++ [run]) = joinRuns rs ++ runTokens run := by
  cases rs with
  | nil => simp [joinRuns, leadingTokens, h]
  | cons r rest => exact joinRuns_concat (by simp) run

/-! ## A segment key by key -/

/-- A segment that ends with a digit ends with a numeral, and a further digit lengthens it. -/
theorem segmentTokens_digit (s : List Key) (d : Digit) :
    ∃ (ts : List Token) (ds : List Digit) (h : ds ≠ []),
      segmentTokens (s ++ [Key.digit d]) = ts ++ [Token.number (Numeral.strip ⟨ds, h⟩)] ∧
      ∀ d', segmentTokens (s ++ [Key.digit d] ++ [Key.digit d']) =
        ts ++ [Token.number (Numeral.strip ⟨ds ++ [d'], by simp⟩)] := by
  obtain ⟨rs, run, hruns, -⟩ := exists_runs_concat s (.digit d)
  refine ⟨joinRuns rs, digits (run ++ [Key.digit d]), by simp, ?_, fun d' => ?_⟩
  · rw [segmentTokens, hruns, joinRuns_concat_digits (by simp), runTokens_of_digits]
  · rw [segmentTokens, runs_concat_same (k := .digit d') hruns rfl,
      joinRuns_concat_digits (by simp), runTokens_of_digits (by simp)]
    simp

/-- A segment that ends with an operator has that operator last or, as long as no digit and no
minus has come, no tokens at all. A further operator takes its place. -/
theorem segmentTokens_operator (s : List Key) (o : Operator) :
    (segmentTokens (s ++ [Key.operator o]) = [] ∧
      ∀ p, segmentTokens (s ++ [Key.operator o] ++ [Key.operator p]) =
        Calculator.enterOperator p []) ∨
    ∃ ts, segmentTokens (s ++ [Key.operator o]) = ts ++ [Token.operator o] ∧
      ∀ p, segmentTokens (s ++ [Key.operator o] ++ [Key.operator p]) =
        ts ++ [Token.operator p] := by
  obtain ⟨rs, run, hruns, hkind⟩ := exists_runs_concat s (.operator o)
  have hrun : digits run = [] := digits_eq_nil hkind
  have hsame (p : Operator) := runs_concat_same (k := .operator p) hruns rfl
  have hlast (p : Operator) :
      runTokens (run ++ [Key.operator o] ++ [Key.operator p]) = [.operator p] :=
    runTokens_concat_operator (by simp [hrun]) p
  simp only [segmentTokens, hruns, hsame]
  cases rs with
  | cons r rest =>
    right
    refine ⟨joinRuns (r :: rest), ?_, fun p => ?_⟩
    · rw [joinRuns_concat (by simp), runTokens_concat_operator hrun]
    · rw [joinRuns_concat (by simp), hlast]
  | nil =>
    -- The run stands first: whether it counts is decided by the minuses in it so far.
    have hmem (p : Operator) : .sub ∈ operators (run ++ [Key.operator o] ++ [Key.operator p]) ↔
        .sub ∈ operators (run ++ [Key.operator o]) ∨ p = .sub := by
      rw [operators_append, List.mem_append]
      simp [eq_comm]
    have hfirst (p : Operator) : joinRuns [run ++ [Key.operator o] ++ [Key.operator p]] =
        if .sub ∈ operators (run ++ [Key.operator o]) ∨ p = .sub then
          [.number .zero, .operator p] else [] := by
      rw [joinRuns_leading (by simp [hrun]), hlast]
      simp only [hmem]
    simp only [List.nil_append, hfirst]
    rw [joinRuns_leading (by simp [hrun]), runTokens_concat_operator hrun]
    by_cases hsub : .sub ∈ operators (run ++ [Key.operator o])
    · right
      exact ⟨[.number .zero], if_pos hsub, fun p => if_pos (.inl hsub)⟩
    · left
      refine ⟨if_neg hsub, fun p => ?_⟩
      simp only [hsub, false_or, Calculator.enterOperator, List.getLast?_nil]
      split
      · next hp => rw [hp]
      · rfl

section Entries

variable {s : List Key} (hs : ∀ k ∈ s, k ≠ .clear ∧ k ≠ .evaluate)
include hs

theorem segmentTokens_concat_digit (d : Digit) :
    segmentTokens (s ++ [Key.digit d]) = Calculator.enterDigit d (segmentTokens s) := by
  rcases s.eq_nil_or_concat' with rfl | ⟨s, j, rfl⟩
  · rfl
  cases j with
  | digit d' =>
    obtain ⟨ts, ds, h, hlast, hnext⟩ := segmentTokens_digit s d'
    rw [hnext, hlast, Calculator.enterDigit_number, Numeral.push_strip]
  | operator o =>
    have hother : segmentTokens (s ++ [Key.operator o] ++ [Key.digit d]) =
        segmentTokens (s ++ [Key.operator o]) ++ [Token.number (.ofDigit d)] := by
      rw [segmentTokens, runs_concat_other (by simp [isDigit]), joinRuns_concat_digits (by simp)]
      rfl
    rw [hother]
    rcases segmentTokens_operator s o with ⟨hnil, -⟩ | ⟨ts, hlast, -⟩
    · rw [hnil]
      rfl
    · rw [hlast, Calculator.enterDigit_operator]
  | clear => exact absurd rfl (hs _ (by simp)).1
  | evaluate => exact absurd rfl (hs _ (by simp)).2

theorem segmentTokens_concat_operator (o : Operator) :
    segmentTokens (s ++ [Key.operator o]) = Calculator.enterOperator o (segmentTokens s) := by
  rcases s.eq_nil_or_concat' with rfl | ⟨s, j, rfl⟩
  · cases o <;> rfl
  cases j with
  | digit d =>
    have hother : segmentTokens (s ++ [Key.digit d] ++ [Key.operator o]) =
        segmentTokens (s ++ [Key.digit d]) ++ [Token.operator o] := by
      rw [segmentTokens, runs_concat_other (by simp [isDigit]), joinRuns_concat (by simp [runs])]
      rfl
    obtain ⟨ts, ds, h, hlast, -⟩ := segmentTokens_digit s d
    rw [hother, hlast, Calculator.enterOperator_number]
  | operator o' =>
    rcases segmentTokens_operator s o' with ⟨hnil, hnext⟩ | ⟨ts, hlast, hnext⟩
    · rw [hnext, hnil]
    · rw [hnext, hlast, Calculator.enterOperator_operator]
  | clear => exact absurd rfl (hs _ (by simp)).1
  | evaluate => exact absurd rfl (hs _ (by simp)).2

/-- A segment can be evaluated when its last key is a digit. -/
theorem endsWithNumber_segmentTokens :
    Token.endsWithNumber (segmentTokens s) = !isIdleBehind s.getLast? := by
  rcases s.eq_nil_or_concat' with rfl | ⟨s, j, rfl⟩
  · rfl
  cases j with
  | digit d =>
    obtain ⟨ts, ds, h, hlast, -⟩ := segmentTokens_digit s d
    simp [hlast, Token.endsWithNumber, Token.isNumber, isIdleBehind]
  | operator o =>
    rcases segmentTokens_operator s o with ⟨hnil, -⟩ | ⟨ts, hlast, -⟩
    · simp [hnil, Token.endsWithNumber, isIdleBehind]
    · simp [hlast, Token.endsWithNumber, Token.isNumber, isIdleBehind]
  | clear => exact absurd rfl (hs _ (by simp)).1
  | evaluate => exact absurd rfl (hs _ (by simp)).2

end Entries

/-! ## The row key by key -/

theorem sinceClear_concat {k : Key} (h : k ≠ .clear) (ks : List Key) :
    sinceClear (ks ++ [k]) = sinceClear ks ++ [k] := by
  simp [sinceClear, h]

theorem sinceClear_concat_clear (ks : List Key) : sinceClear (ks ++ [Key.clear]) = [] := by
  simp [sinceClear]

theorem ne_clear_of_mem_sinceClear {ks : List Key} {k : Key} (h : k ∈ sinceClear ks) :
    k ≠ .clear := by
  simpa using List.mem_rtakeWhile_imp h

/-- The last key of a row that is no `=`. -/
def lastEntry (ks : List Key) : Option Key := (ks.filter (· ≠ .evaluate)).getLast?

theorem lastEntry_cons {k : Key} (h : k ≠ .evaluate) (ks : List Key) :
    lastEntry (k :: ks) = (lastEntry ks).or (some k) := by
  simp [lastEntry, h, List.getLast?_cons, Option.or_some]

@[simp] theorem lastEntry_cons_evaluate (ks : List Key) :
    lastEntry (.evaluate :: ks) = lastEntry ks := by
  simp [lastEntry]

theorem lastEntry_concat {k : Key} (h : k ≠ .evaluate) (ks : List Key) :
    lastEntry (ks ++ [k]) = some k := by
  simp [lastEntry, h]

@[simp] theorem lastEntry_concat_evaluate (ks : List Key) :
    lastEntry (ks ++ [Key.evaluate]) = lastEntry ks := by
  simp [lastEntry]

theorem dropIdle_concat (before : Option Key) (ks : List Key) (k : Key) :
    dropIdle before (ks ++ [k]) =
      dropIdle before ks ++ dropIdle ((lastEntry ks).or before) [k] := by
  fun_induction dropIdle before ks with
  | case1 => rfl
  | case2 before j r hj ih =>
    rw [List.cons_append, dropIdle, if_pos hj, ih, lastEntry_cons hj, Option.or_assoc]
    rfl
  | case3 before j r hj hidle ih =>
    obtain rfl := not_not.1 hj
    rw [List.cons_append, dropIdle, if_neg hj, if_pos hidle, ih, lastEntry_cons_evaluate]
  | case4 before j r hj hidle ih =>
    obtain rfl := not_not.1 hj
    rw [List.cons_append, dropIdle, if_neg hj, if_neg hidle, ih, lastEntry_cons_evaluate]
    rfl

theorem mem_of_mem_dropIdle {before : Option Key} {ks : List Key} {k : Key}
    (h : k ∈ dropIdle before ks) : k ∈ ks := by
  fun_induction dropIdle before ks <;> grind

theorem keptKeys_concat {k : Key} (hc : k ≠ .clear) (he : k ≠ .evaluate) (ks : List Key) :
    keptKeys (ks ++ [k]) = keptKeys ks ++ [k] := by
  rw [keptKeys, sinceClear_concat hc, dropIdle_concat]
  simp [keptKeys, dropIdle, he]

theorem keptKeys_concat_clear (ks : List Key) : keptKeys (ks ++ [Key.clear]) = [] := by
  rw [keptKeys, sinceClear_concat_clear]
  rfl

theorem keptKeys_concat_evaluate (ks : List Key) :
    keptKeys (ks ++ [Key.evaluate]) =
      if isIdleBehind (lastEntry (sinceClear ks)) then keptKeys ks
      else keptKeys ks ++ [Key.evaluate] := by
  rw [keptKeys, sinceClear_concat (by simp), dropIdle_concat, Option.or_none]
  by_cases h : isIdleBehind (lastEntry (sinceClear ks)) <;> simp [keptKeys, dropIdle, h]

/-- The part of the segment that a further digit or operator is added to. -/
def openSegment (kept : List Key) : List Key :=
  if kept.getLast? = some .evaluate then [] else segment kept

theorem segment_concat {k : Key} (h : k ≠ .evaluate) (kept : List Key) :
    segment (kept ++ [k]) = openSegment kept ++ [k] := by
  rw [segment, if_neg (by simpa using h), List.rtakeWhile_concat, if_pos (by simpa using h)]
  congr 1
  unfold openSegment
  split
  · next hcut =>
    obtain ⟨s, rfl⟩ := List.getLast?_eq_some_iff.1 hcut
    simp
  · next hcut => rw [segment, if_neg hcut]

theorem segment_concat_evaluate (kept : List Key) :
    segment (kept ++ [Key.evaluate]) = segment kept := by
  rw [segment, if_pos (by simp), List.rdropWhile_concat_pos _ _ _ (by simp), segment]
  split
  · rfl
  · next hcut =>
    rw [List.rdropWhile_eq_self_iff.2]
    intro hne
    simpa [List.getLast?_eq_some_getLast hne] using hcut

theorem mem_of_mem_segment {kept : List Key} {k : Key} (h : k ∈ segment kept) :
    k ∈ kept ∧ k ≠ .evaluate := by
  rw [segment] at h
  split at h
  · have hk := (List.rtakeWhile_suffix _ _).subset h
    exact ⟨(List.rdropWhile_prefix _ _).subset hk, by simpa using List.mem_rtakeWhile_imp h⟩
  · exact ⟨(List.rtakeWhile_suffix _ _).subset h, by simpa using List.mem_rtakeWhile_imp h⟩

/-- A segment holds digits and operators only. -/
theorem entry_of_mem_segment {ks : List Key} {k : Key} (h : k ∈ segment (keptKeys ks)) :
    k ≠ .clear ∧ k ≠ .evaluate :=
  have ⟨hk, he⟩ := mem_of_mem_segment h
  ⟨ne_clear_of_mem_sinceClear (mem_of_mem_dropIdle hk), he⟩

theorem entry_of_mem_openSegment {ks : List Key} {k : Key}
    (h : k ∈ openSegment (keptKeys ks)) : k ≠ .clear ∧ k ≠ .evaluate := by
  rw [openSegment] at h
  split at h
  · cases h
  · exact entry_of_mem_segment h

/-- The key that decides whether an `=` counts is the last one of the segment. -/
theorem getLast?_segment (ks : List Key) :
    (segment (dropIdle none ks)).getLast? = lastEntry ks := by
  induction ks using List.reverseRecOn with
  | nil => rfl
  | append_singleton ks k ih =>
    rw [dropIdle_concat, Option.or_none]
    by_cases hk : k = .evaluate
    · subst hk
      rw [lastEntry_concat_evaluate, ← ih]
      by_cases hidle : isIdleBehind (segment (dropIdle none ks)).getLast?
      · simp [dropIdle, hidle]
      · simp [dropIdle, hidle, segment_concat_evaluate]
    · have hkept : dropIdle (lastEntry ks) [k] = [k] := by simp [dropIdle, hk]
      rw [hkept, lastEntry_concat hk, segment_concat hk, List.getLast?_concat]

/-! ## The calculator -/

theorem tokens_concat {k : Key} (hc : k ≠ .clear) (he : k ≠ .evaluate) (ks : List Key) :
    tokens (ks ++ [k]) = segmentTokens (openSegment (keptKeys ks) ++ [k]) := by
  rw [tokens, keptKeys_concat hc he, segment_concat he]

theorem mode_concat {k : Key} (hc : k ≠ .clear) (he : k ≠ .evaluate) (ks : List Key) :
    mode (ks ++ [k]) = .entering := by
  rw [mode, keptKeys_concat hc he, List.getLast?_concat, if_neg (by simpa using he)]

/-- A calculator that stands where a row of keys leads. -/
structure Reached (ks : List Key) (c : Calculator) : Prop where
  tokens_eq : c.tokens = tokens ks
  mode_eq : c.mode = mode ks

theorem Reached.pendingTokens_eq {ks : List Key} {c : Calculator} (h : Reached ks c) :
    c.pendingTokens = segmentTokens (openSegment (keptKeys ks)) := by
  rw [Calculator.pendingTokens, h.mode_eq, h.tokens_eq, mode, openSegment]
  by_cases hcut : (keptKeys ks).getLast? = some .evaluate
  · rw [if_pos hcut, if_pos hcut]
    rfl
  · rw [if_neg hcut, if_neg hcut]
    rfl

theorem Reached.endsWithNumber_eq {ks : List Key} {c : Calculator} (h : Reached ks c) :
    Token.endsWithNumber c.tokens = !isIdleBehind (lastEntry (sinceClear ks)) := by
  rw [h.tokens_eq, tokens, endsWithNumber_segmentTokens fun _ => entry_of_mem_segment, keptKeys,
    getLast?_segment]

/-- What is kept of a row decides what the next key does. -/
theorem Reached.press {ks : List Key} {c : Calculator} (h : Reached ks c) (k : Key) :
    Reached (ks ++ [k]) (c.press k) := by
  cases k with
  | clear =>
    have hkept := keptKeys_concat_clear ks
    refine ⟨?_, ?_⟩
    · rw [tokens, hkept]
      rfl
    · rw [mode, hkept]
      rfl
  | digit d =>
    refine ⟨?_, (mode_concat (by simp) (by simp) ks).symm⟩
    rw [tokens_concat (by simp) (by simp),
      segmentTokens_concat_digit fun _ => entry_of_mem_openSegment, ← h.pendingTokens_eq]
    rfl
  | operator o =>
    refine ⟨?_, (mode_concat (by simp) (by simp) ks).symm⟩
    rw [tokens_concat (by simp) (by simp),
      segmentTokens_concat_operator fun _ => entry_of_mem_openSegment, ← h.pendingTokens_eq]
    rfl
  | evaluate =>
    have hkept := keptKeys_concat_evaluate ks
    have hends := h.endsWithNumber_eq
    simp only [Calculator.press, Calculator.finish]
    by_cases hidle : isIdleBehind (lastEntry (sinceClear ks))
    · rw [if_pos hidle] at hkept
      rw [if_neg (by simp [hends, hidle])]
      exact ⟨by rw [tokens, hkept, h.tokens_eq, tokens], by rw [mode, hkept, h.mode_eq, mode]⟩
    · rw [if_neg hidle] at hkept
      rw [if_pos (by simp [hends, hidle])]
      refine ⟨?_, ?_⟩
      · rw [tokens, hkept, segment_concat_evaluate, h.tokens_eq, tokens]
      · rw [mode, hkept, List.getLast?_concat, if_pos rfl]

theorem reached_pressAll (ks : List Key) : Reached ks (Calculator.initial.pressAll ks) := by
  induction ks using List.reverseRecOn with
  | nil => exact ⟨rfl, rfl⟩
  | append_singleton ks k ih =>
    rw [Calculator.pressAll_append]
    exact ih.press k

/-- After every row of keys, a new calculator has the tokens and the mode that one pass over the
whole row gives. -/
theorem tokens_mode_pressAll (ks : List Key) :
    (Calculator.initial.pressAll ks).tokens = tokens ks ∧
      (Calculator.initial.pressAll ks).mode = mode ks :=
  ⟨(reached_pressAll ks).tokens_eq, (reached_pressAll ks).mode_eq⟩

/-- A minus behind a finished evaluation starts from zero, and the operator before it is lost. -/
example : tokens [.digit 2, .operator .add, .digit 3, .evaluate, .operator .mul, .operator .sub,
    .digit 5] = [.number .zero, .operator .sub, .number (.ofDigit 5)] := by decide

end History

end PocketCalculator
