/-!
# Blanks and words

The blanks are the white space of Unicode together with the four information separators
U+001C to U+001F. Main statements: a word is nonempty and has no blank in it, and cutting a text
into words loses only blanks.
-/

namespace PocketCalculator

def isBlank (c : Char) : Bool :=
  let n := c.toNat
  (0x09 ≤ n && n ≤ 0x0D) || (0x1C ≤ n && n ≤ 0x20) || n == 0x85 || n == 0xA0 || n == 0x1680 ||
    (0x2000 ≤ n && n ≤ 0x200A) || n == 0x2028 || n == 0x2029 || n == 0x202F || n == 0x205F ||
    n == 0x3000

/-! ## Words -/

/-- Puts a word in front of the others, unless it is empty. -/
def keepWord (w : List Char) (ws : List (List Char)) : List (List Char) :=
  if w = [] then ws else w :: ws

/-- The word that begins at the left end (empty if a blank stands there), and the words after it. -/
def cutWords : List Char → List Char × List (List Char)
  | [] => ([], [])
  | c :: r =>
    let (w, ws) := cutWords r
    if isBlank c then ([], keepWord w ws) else (c :: w, ws)

/-- The longest runs without a blank, in order. -/
def words (s : List Char) : List (List Char) :=
  keepWord (cutWords s).1 (cutWords s).2

theorem words_cons_blank {c : Char} (h : isBlank c = true) (r : List Char) :
    words (c :: r) = words r := by
  simp [words, cutWords, h, keepWord]

theorem flatten_keepWord (w : List Char) (ws : List (List Char)) :
    (keepWord w ws).flatten = w ++ ws.flatten := by
  unfold keepWord; split <;> simp_all

/-- The words hold every character that is not blank, in order. -/
theorem flatten_words (s : List Char) : (words s).flatten = s.filter (!isBlank ·) := by
  unfold words
  rw [flatten_keepWord]
  induction s with
  | nil => rfl
  | cons c r ih => by_cases h : isBlank c = true <;> simp [cutWords, h, flatten_keepWord, ← ih]

/-- What a text is cut into. -/
def IsWord (w : List Char) : Prop := w ≠ [] ∧ ∀ c ∈ w, isBlank c = false

theorem isWord_of_mem_keepWord {w : List Char} {ws : List (List Char)}
    (hw : ∀ c ∈ w, isBlank c = false) (hws : ∀ v ∈ ws, IsWord v) :
    ∀ v ∈ keepWord w ws, IsWord v := by
  unfold keepWord
  split
  · exact hws
  · next hne => exact List.forall_mem_cons.2 ⟨⟨hne, hw⟩, hws⟩

theorem isWord_of_mem_words {s w : List Char} (h : w ∈ words s) : IsWord w := by
  have hcut : (∀ c ∈ (cutWords s).1, isBlank c = false) ∧ ∀ v ∈ (cutWords s).2, IsWord v := by
    clear h
    induction s with
    | nil => simp [cutWords]
    | cons c r ih =>
      obtain ⟨hw, hws⟩ := ih
      by_cases hc : isBlank c = true
      · have hkeep := isWord_of_mem_keepWord hw hws
        simpa [cutWords, hc] using hkeep
      · have hcons : ∀ a ∈ c :: (cutWords r).1, isBlank a = false :=
          List.forall_mem_cons.2 ⟨eq_false_of_ne_true hc, hw⟩
        simpa [cutWords, hc] using And.intro hcons hws
  exact isWord_of_mem_keepWord hcut.1 hcut.2 w h

theorem keepWord_append (w : List Char) (ws vs : List (List Char)) :
    keepWord w (ws ++ vs) = keepWord w ws ++ vs := by
  unfold keepWord
  split <;> rfl

/-- A blank cuts a text into two that have their words apart. -/
theorem words_append_blank {c : Char} (hc : isBlank c = true) (s t : List Char) :
    words (s ++ c :: t) = words s ++ words t := by
  have hcut : cutWords (s ++ c :: t) = ((cutWords s).1, (cutWords s).2 ++ words t) := by
    induction s with
    | nil => simp [cutWords, hc, words]
    | cons a s ih => by_cases ha : isBlank a = true <;> simp [cutWords, ha, ih, keepWord_append]
  rw [words, hcut, keepWord_append]
  rfl

theorem words_of_isWord {w : List Char} (h : IsWord w) : words w = [w] := by
  obtain ⟨hne, hw⟩ := h
  have hcut : cutWords w = (w, []) := by
    clear hne
    induction w with
    | nil => rfl
    | cons c r ih =>
      obtain ⟨hc, hr⟩ := List.forall_mem_cons.1 hw
      simp [cutWords, hc, ih hr]
  rw [words, hcut, keepWord, if_neg hne]

/-- Words with a space between neighbours are found again. -/
theorem words_intercalate {ws : List (List Char)} (h : ∀ w ∈ ws, IsWord w) :
    words ([' '].intercalate ws) = ws := by
  induction ws with
  | nil => rfl
  | cons w ws ih =>
    obtain ⟨hw, hws⟩ := List.forall_mem_cons.1 h
    cases ws with
    | nil => rw [List.intercalate_singleton, words_of_isWord hw]
    | cons v ws =>
      rw [List.intercalate_cons_cons, List.append_assoc, List.singleton_append,
        words_append_blank (by decide), words_of_isWord hw, ih hws, List.singleton_append]

/-! ## Trimming -/

/-- Removes the characters of a class from both ends. -/
def trimEnds (p : Char → Bool) (s : List Char) : List Char :=
  ((s.dropWhile p).reverse.dropWhile p).reverse

theorem dropWhile_append_of_forall {p : Char → Bool} {before s : List Char}
    (hbefore : ∀ c ∈ before, p c = true) (hs : ∀ c ∈ s.head?, p c = false) :
    (before ++ s).dropWhile p = s := by
  rw [List.dropWhile_append_of_pos hbefore]
  cases s with
  | nil => rfl
  | cons c r => simp [hs c rfl]

theorem trimEnds_append {p : Char → Bool} {before s behind : List Char}
    (hbefore : ∀ c ∈ before, p c = true) (hs : ∀ c ∈ s, p c = false)
    (hbehind : ∀ c ∈ behind, p c = true) : trimEnds p (before ++ s ++ behind) = s := by
  cases s with
  | nil =>
    have hall : ∀ c ∈ before ++ behind, p c = true := List.forall_mem_append.2 ⟨hbefore, hbehind⟩
    rw [List.append_nil, ← List.append_nil (before ++ behind), trimEnds,
      dropWhile_append_of_forall hall (by simp)]
    rfl
  | cons c r =>
    have hlast : ∀ a ∈ (c :: r).reverse.head?, p a = false := fun a ha =>
      hs a (List.mem_reverse.1 (List.mem_of_mem_head? ha))
    rw [trimEnds, List.append_assoc,
      dropWhile_append_of_forall hbefore (by simpa using hs c List.mem_cons_self),
      List.reverse_append, dropWhile_append_of_forall (by simpa using hbehind) hlast,
      List.reverse_reverse]

/-- Only characters of the class are lost. -/
theorem exists_append_trimEnds (p : Char → Bool) (s : List Char) :
    ∃ before behind, s = before ++ trimEnds p s ++ behind ∧ (∀ c ∈ before, p c = true) ∧
      ∀ c ∈ behind, p c = true := by
  have hall (t : List Char) : ∀ c ∈ t.takeWhile p, p c = true :=
    List.all_eq_true.1 List.all_takeWhile
  refine ⟨s.takeWhile p, ((s.dropWhile p).reverse.takeWhile p).reverse, ?_, hall s, ?_⟩
  · rw [trimEnds, List.append_assoc, ← List.reverse_append, List.takeWhile_append_dropWhile,
      List.reverse_reverse, List.takeWhile_append_dropWhile]
  · intro c hc
    exact hall _ c (List.mem_reverse.1 hc)

end PocketCalculator
