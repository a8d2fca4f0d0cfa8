import PocketCalculator.Json.Printer

/-!
# JSON in one line

JSON is written without line breaks and in ASCII, so that a value can be printed as a line of its
own, whatever the strings in it. Main statement: `Json.isLine_write`.

## Main definitions

* `IsLine` — a text of printable ASCII characters.
-/

namespace PocketCalculator

/-! ## Lines -/

def isLineChar (c : Char) : Bool := 0x20 ≤ c.toNat && c.toNat < 0x7F

/-- A text that is printed as one line, in ASCII. -/
def IsLine (s : String) : Prop := ∀ c ∈ s.toList, isLineChar c = true

theorem isLine_of_all {s : String} (h : s.toList.all isLineChar = true) : IsLine s :=
  List.all_eq_true.1 h

theorem isLine_ofList {cs : List Char} :
    IsLine (String.ofList cs) ↔ ∀ c ∈ cs, isLineChar c = true := by
  rw [IsLine, String.toList_ofList]

theorem IsLine.append {s t : String} (hs : IsLine s) (ht : IsLine t) : IsLine (s ++ t) := by
  intro c hc
  rw [String.toList_append, List.mem_append] at hc
  exact hc.elim (hs c) (ht c)

theorem IsLine.intercalate {sep : String} (hsep : IsLine sep) {ss : List String}
    (hss : ∀ s ∈ ss, IsLine s) : IsLine (sep.intercalate ss) := by
  intro c hc
  rw [String.toList_intercalate] at hc
  induction ss with
  | nil => exact absurd hc (by simp)
  | cons s ss ih =>
    obtain ⟨hs, hss⟩ := List.forall_mem_cons.1 hss
    cases ss with
    | nil => exact hs c (by simpa using hc)
    | cons t ts =>
      rw [List.map_cons, List.map_cons, List.intercalate_cons_cons, List.mem_append,
        List.mem_append] at hc
      rcases hc with (hc | hc) | hc
      · exact hs c hc
      · exact hsep c hc
      · exact ih hss hc

/-! ## Numbers -/

theorem isLineChar_of_mem_hexDigits {width n : Nat} {c : Char} (h : c ∈ hexDigits width n) :
    isLineChar c = true := by
  have hdigit : ∀ d < 16, isLineChar (Nat.digitChar d) = true := by decide
  induction width generalizing n with
  | zero => cases h
  | succ w ih =>
    rw [hexDigits, List.mem_append, List.mem_singleton] at h
    rcases h with h | rfl
    · exact ih h
    · exact hdigit _ (Nat.mod_lt n (by decide))

theorem isLineChar_toChar (d : Digit) : isLineChar d.toChar = true := by
  revert d
  decide

theorem Numeral.isLine_text (n : Numeral) : IsLine n.text := by
  rw [Numeral.text, isLine_ofList]
  exact List.forall_mem_map.2 fun d _ => isLineChar_toChar d

theorem isLine_intText (n : Int) : IsLine (intText n) := by
  cases n with
  | ofNat n => exact Numeral.isLine_text _
  | negSucc n => exact (isLine_of_all (by decide)).append (Numeral.isLine_text _)

theorem isLine_exponentText (n : Int) : IsLine (exponentText n) := by
  unfold exponentText
  refine IsLine.append ?_ ?_
  · split <;> exact isLine_of_all (by decide)
  · split
    · exact (isLine_of_all (by decide)).append (Numeral.isLine_text _)
    · exact Numeral.isLine_text _

theorem isLine_placePoint {ds : List Char} (h : ∀ c ∈ ds, isLineChar c = true) (point : Int) :
    IsLine (placePoint ds point) := by
  have hfixed : ∀ c ∈ ['0', '.', 'e'], isLineChar c = true := List.all_eq_true.1 (by decide)
  have hdrop : ∀ n, ∀ c ∈ ds.drop n, isLineChar c = true := fun n c hc =>
    h c (List.mem_of_mem_drop hc)
  have hwhole : ∀ c ∈ ds.take point.toNat ++ List.replicate (point.toNat - ds.length) '0',
      isLineChar c = true := by
    grind [List.mem_of_mem_take]
  unfold placePoint
  split
  · split
    · rw [isLine_ofList]
      grind
    · dsimp only
      split <;> rw [isLine_ofList] <;> grind
  · split
    · exact isLine_of_all (by decide)
    · exact (isLine_ofList.2 (by grind)).append (isLine_exponentText _)
    · exact (isLine_ofList.2 (by grind)).append (isLine_exponentText _)

theorem isLine_scientificText (x : Float) : IsLine (scientificText x) := by
  have hdigits (c : Nat) :
      ∀ d ∈ (Numeral.ofNat c).digits.map Digit.toChar, isLineChar d = true :=
    List.forall_mem_map.2 fun d _ => isLineChar_toChar d
  unfold scientificText
  dsimp only
  split
  · exact isLine_of_all (by decide)
  · next sign _ => cases sign <;> exact isLine_of_all (by decide)
  · next sign _ => cases sign <;> exact isLine_of_all (by decide)
  · next sign _ _ _ _ =>
    refine IsLine.append ?_ (isLine_placePoint (hdigits _) _)
    cases sign <;> exact isLine_of_all (by decide)

/-! ## JSON -/

namespace Json

theorem isLineChar_of_mem_unitEscape {n : Nat} {c : Char} (h : c ∈ unitEscape n) :
    isLineChar c = true := by
  simp only [unitEscape, List.mem_cons] at h
  rcases h with rfl | rfl | h
  · decide
  · decide
  · exact isLineChar_of_mem_hexDigits h

theorem isLineChar_of_mem_escape {c d : Char} (h : d ∈ escape c) : isLineChar d = true := by
  have hshort : ∀ c ∈ ['\\', '"', 'n', 'r', 't', 'f', 'b'], isLineChar c = true :=
    List.all_eq_true.1 (by decide)
  unfold escape at h
  grind [isLineChar_of_mem_unitEscape, isLineChar]

theorem isLine_writeString (s : String) : IsLine (writeString s) := by
  have hquote : isLineChar '"' = true := by decide
  rw [writeString, isLine_ofList]
  grind [isLineChar_of_mem_escape]

theorem isLine_writeNumber (x : Float) : IsLine (writeNumber x) := by
  unfold writeNumber
  split
  · exact isLine_of_all (by decide)
  · exact isLine_of_all (by decide)
  · exact isLine_of_all (by decide)
  · exact isLine_scientificText x

/-- What stands between brackets, with a comma and a blank between neighbours. -/
theorem isLine_listing {opening closing : String} (hopening : IsLine opening)
    (hclosing : IsLine closing) {ss : List String} (h : ∀ s ∈ ss, IsLine s) :
    IsLine (opening ++ ", ".intercalate ss ++ closing) := by
  have hcomma : IsLine ", " := isLine_of_all (by decide)
  exact (hopening.append (hcomma.intercalate h)).append hclosing

mutual

/-- JSON is written in one line, whatever the strings in it. -/
theorem isLine_write (v : Json) : IsLine (write v) := by
  cases v with
  | null => exact isLine_of_all (by decide)
  | bool b => cases b <;> exact isLine_of_all (by decide)
  | integer n => exact isLine_intText n
  | number x => exact isLine_writeNumber x
  | string s => exact isLine_writeString s
  | array items =>
    rw [write]
    exact isLine_listing (isLine_of_all (by decide)) (isLine_of_all (by decide))
      (isLine_writeItems items)
  | object members =>
    rw [write]
    exact isLine_listing (isLine_of_all (by decide)) (isLine_of_all (by decide))
      (isLine_writeMembers members)

theorem isLine_writeItems (vs : List Json) : ∀ s ∈ writeItems vs, IsLine s := by
  cases vs with
  | nil => exact List.forall_mem_nil _
  | cons v vs => exact List.forall_mem_cons.2 ⟨isLine_write v, isLine_writeItems vs⟩

theorem isLine_writeMembers (ms : List (String × Json)) : ∀ s ∈ writeMembers ms, IsLine s := by
  cases ms with
  | nil => exact List.forall_mem_nil _
  | cons m ms =>
    have hname : IsLine (writeString m.1 ++ ": ") :=
      (isLine_writeString m.1).append (isLine_of_all (by decide))
    exact List.forall_mem_cons.2 ⟨hname.append (isLine_write m.2), isLine_writeMembers ms⟩

end

end Json

end PocketCalculator
