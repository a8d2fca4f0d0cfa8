/-!
# Texts in pieces

Texts are cut at separators. Main statement: the pieces of a text hold every character that is no
separator, in order.
-/

namespace PocketCalculator

/-- The pieces between the separators of a class, empty pieces included. -/
def pieces (p : Char → Bool) : List Char → List (List Char)
  | [] => [[]]
  | c :: r =>
    if p c then [] :: pieces p r
    else match pieces p r with
      | [] => [[c]]
      | s :: ss => (c :: s) :: ss

theorem pieces_ne_nil (p : Char → Bool) (s : List Char) : pieces p s ≠ [] := by
  cases s with
  | nil => simp [pieces]
  | cons c r =>
    rw [pieces]
    split
    · simp
    · split <;> simp

theorem flatten_pieces (p : Char → Bool) (s : List Char) :
    (pieces p s).flatten = s.filter (!p ·) := by
  induction s with
  | nil => rfl
  | cons c r ih =>
    rw [pieces]
    split
    · simp_all
    · split
      · exact absurd ‹_› (pieces_ne_nil p r)
      · simp_all

theorem pieces_of_forall {p : Char → Bool} {s : List Char} (h : ∀ c ∈ s, p c = false) :
    pieces p s = [s] := by
  induction s with
  | nil => rfl
  | cons c r ih =>
    obtain ⟨hc, hr⟩ := List.forall_mem_cons.1 h
    rw [pieces, hc, ih hr]
    rfl

theorem pieces_append {p : Char → Bool} {s : List Char} (h : ∀ c ∈ s, p c = false) {c : Char}
    (hc : p c = true) (t : List Char) : pieces p (s ++ c :: t) = s :: pieces p t := by
  induction s with
  | nil => rw [List.nil_append, pieces, if_pos hc]
  | cons d r ih =>
    obtain ⟨hd, hr⟩ := List.forall_mem_cons.1 h
    rw [List.cons_append, pieces, hd, ih hr]
    rfl

/-- What stands before the first `c`, and what stands behind it if there is one. -/
def cutFirst (c : Char) : List Char → List Char × Option (List Char)
  | [] => ([], none)
  | d :: r =>
    if d = c then ([], some r)
    else
      let (before, behind) := cutFirst c r
      (d :: before, behind)

/-- What stands before the last `c` if there is one, and what stands behind it. -/
def cutLast (c : Char) (s : List Char) : Option (List Char) × List Char :=
  match cutFirst c s.reverse with
  | (behind, before) => (before.map List.reverse, behind.reverse)

end PocketCalculator
