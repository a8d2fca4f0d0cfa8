import Mathlib.Algebra.Ring.Nat
import PocketCalculator.Proofs.DisplayLines
import PocketCalculator.Proofs.RegistryOrder

/-!
# Sessions do not disturb each other

A registry holds many calculators, and operations on them come in any order. What has become of a
session depends on the operations that name it, and on nothing else: its calculator is a new one to
which only its own batches of keys and its own clearings were applied since it was last created.
Main statement: `isolated_afterAll`.

## Main definitions

* `Registry.ownCalls` — what a run asks of the calculator of one session.
* `Registry.ownBatches` — the batches of keys that a run presses in one session without failing.
* `Session.Follows` — a session that has come out of another one by its own calls alone.
-/

namespace PocketCalculator

namespace Calculator

/-! ## Labels in front of an unknown one -/

/-- The labels in front of the first that belongs to no key. -/
def knownLabels (labels : List String) : List String :=
  labels.takeWhile fun l => (Key.ofLabel? l).isSome

/-- A batch with an unknown label leaves what the labels in front of it do. -/
theorem pressLabels_knownLabels (c : Calculator) (labels : List String) :
    (c.pressLabels (knownLabels labels)).1 = (c.pressLabels labels).1 := by
  induction labels generalizing c with
  | nil => rfl
  | cons l r ih =>
    rw [knownLabels, List.takeWhile_cons, pressLabels]
    cases hl : Key.ofLabel? l with
    | none => rfl
    | some k =>
      simp only [Option.isSome_some, if_true, pressLabels, hl]
      exact ih (c.press k)

end Calculator

namespace Registry

/-! ## The operations of one session -/

/-- What an operation asks of the calculator of a session. -/
def Operation.calls (id : String) : Operation → List Calculator.Call
  | .press i labels => if i = id then [.pressMany (Calculator.knownLabels labels)] else []
  | .clear i => if i = id then [.clear] else []
  | _ => []

def ownCalls (id : String) (ops : List Operation) : List Calculator.Call :=
  ops.flatMap (Operation.calls id)

def Pressed.isDisplay : Pressed → Bool
  | .pressed _ => true
  | _ => false

/-- The batch that an operation presses in a session, unless it fails. -/
def batchOf (r : Registry) (id : String) : Operation → List (List String)
  | .press i labels => if i = id ∧ (r.press i labels).2.isDisplay then [labels] else []
  | _ => []

/-- The batches that a run presses in a session without failing. -/
def ownBatches (r : Registry) (id : String) : List Operation → List (List String)
  | [] => []
  | op :: ops => r.batchOf id op ++ (r.after op).ownBatches id ops

end Registry

/-! ## One session -/

/-- A session that has come out of another by calls of its calculator and counted batches. -/
structure Session.Follows (s : Session) (calls : List Calculator.Call)
    (batches : List (List String)) (t : Session) : Prop where
  stamp : t.toStamp = s.toStamp
  calculator : t.calculator = s.calculator.afterAll calls
  keyCount : t.keyCount = s.keyCount + (batches.map List.length).sum

theorem Session.Follows.refl (s : Session) : s.Follows [] [] s := ⟨rfl, rfl, rfl⟩

theorem Session.Follows.id {s t : Session} {calls : List Calculator.Call}
    {batches : List (List String)} (h : s.Follows calls batches t) : t.id = s.id :=
  congrArg Stamp.id h.stamp

theorem Session.Follows.trans {s t u : Session} {cs ds : List Calculator.Call}
    {bs es : List (List String)} (h : s.Follows cs bs t) (h' : t.Follows ds es u) :
    s.Follows (cs ++ ds) (bs ++ es) u := by
  refine ⟨h'.stamp.trans h.stamp, ?_, ?_⟩
  · rw [h'.calculator, h.calculator, Calculator.afterAll, Calculator.afterAll,
      Calculator.afterAll, List.foldl_append]
  · rw [h'.keyCount, h.keyCount, List.map_append, List.sum_append, Nat.add_assoc]

namespace Registry

/-! ## One operation -/

theorem eq_of_id_eq {r : Registry} (h : r.ids.Nodup) {s t : Session} (hs : s ∈ r.sessions)
    (ht : t ∈ r.sessions) (hid : s.id = t.id) : s = t :=
  List.inj_on_of_nodup_map h hs ht hid

theorem find?_of_mem {r : Registry} (h : r.ids.Nodup) {s : Session} (hs : s ∈ r.sessions) :
    r.find? s.id = some s := by
  cases hf : r.find? s.id with
  | none => exact absurd rfl (id_ne_of_find?_none hf hs)
  | some t =>
    obtain ⟨ht, hid⟩ := mem_of_find? hf
    rw [eq_of_id_eq h ht hs hid]

theorem follows_press_of_ne {s : Session} {i : String} (h : s.id ≠ i) (r : Registry)
    (labels : List String) :
    s.Follows (Operation.calls s.id (.press i labels)) (r.batchOf s.id (.press i labels)) s := by
  rw [Operation.calls, batchOf, if_neg h.symm, if_neg fun hi => h hi.1.symm]
  exact .refl s

theorem follows_clear_of_ne {s : Session} {i : String} (h : s.id ≠ i) :
    s.Follows (Operation.calls s.id (.clear i)) [] s := by
  rw [Operation.calls, if_neg h.symm]
  exact .refl s

/-- What a batch makes of the session that it names. -/
theorem press_of_find? {r : Registry} {i : String} {s : Session} (h : r.find? i = some s)
    (labels : List String) :
    (r.press i labels).1 = r.update i fun t =>
      ⟨t.toStamp, (s.calculator.pressLabels labels).1,
        t.keyCount + if (r.press i labels).2.isDisplay then labels.length else 0⟩ := by
  unfold press
  rw [h]
  cases hp : s.calculator.pressLabels labels with
  | mk c e => cases e <;> simp [hp, Pressed.isDisplay]

/-- A batch reaches the session that it names, up to the first unknown label, and counts if there
is none. -/
theorem exists_follows_of_mem_press {r : Registry} (h : r.ids.Nodup) {i : String}
    {labels : List String} {t : Session} (ht : t ∈ (r.press i labels).1.sessions) :
    ∃ s ∈ r.sessions,
      s.Follows (Operation.calls s.id (.press i labels)) (r.batchOf s.id (.press i labels)) t := by
  cases hf : r.find? i with
  | none =>
    have hr : (r.press i labels).1 = r := press_of_unknownSession (by rw [press, hf])
    rw [hr] at ht
    exact ⟨t, ht, follows_press_of_ne (id_ne_of_find?_none hf ht) r labels⟩
  | some s₀ =>
    rw [press_of_find? hf] at ht
    obtain ⟨s, hs, ⟨hid, rfl⟩ | ⟨hid, rfl⟩⟩ := exists_of_mem_update ht
    · obtain ⟨hs₀, hid₀⟩ := mem_of_find? hf
      obtain rfl := eq_of_id_eq h hs hs₀ (hid.trans hid₀.symm)
      refine ⟨s, hs, rfl, ?_, ?_⟩
      · rw [Operation.calls, if_pos hid.symm]
        exact (s.calculator.pressLabels_knownLabels labels).symm
      · rw [batchOf]
        cases (r.press i labels).2.isDisplay <;> simp [hid]
    · exact ⟨t, hs, follows_press_of_ne hid r labels⟩

theorem exists_follows_of_mem_clear {r : Registry} {i : String} {t : Session}
    (ht : t ∈ (r.clear i).1.sessions) :
    ∃ s ∈ r.sessions, s.Follows (Operation.calls s.id (.clear i)) [] t := by
  cases hf : r.find? i with
  | none =>
    have hr : (r.clear i).1 = r := clear_of_none (by rw [clear, hf])
    rw [hr] at ht
    exact ⟨t, ht, follows_clear_of_ne (id_ne_of_find?_none hf ht)⟩
  | some s₀ =>
    rw [clear, hf] at ht
    obtain ⟨s, hs, ⟨rfl, rfl⟩ | ⟨hid, rfl⟩⟩ := exists_of_mem_update ht
    · refine ⟨s, hs, ?_⟩
      rw [Operation.calls, if_pos rfl]
      exact ⟨rfl, rfl, rfl⟩
    · exact ⟨t, hs, follows_clear_of_ne hid⟩

theorem mem_of_mem_delete {r : Registry} {i : String} {t : Session}
    (ht : t ∈ (r.delete i).1.sessions) : t ∈ r.sessions := by
  unfold delete at ht
  split at ht
  · exact ht
  · exact List.mem_of_mem_filter ht

theorem eq_or_mem_of_mem_create {r : Registry} {stamp : Stamp} {limit : Int} {t : Session}
    (ht : t ∈ (r.create stamp limit).1.sessions) :
    t = .fresh stamp ∨ (t ∈ r.sessions ∧ t.id ≠ stamp.id) := by
  rw [create, trim, evict_eq_drop] at ht
  exact eq_or_mem_of_mem_put (List.mem_of_mem_drop ht)

/-- A session that is live after an operation was created by it, or was live before under an id that
the operation gives to no other, and has gone through nothing but the calls that name it. -/
theorem exists_follows_of_mem_after {r : Registry} (h : r.ids.Nodup) {op : Operation} {t : Session}
    (ht : t ∈ (r.after op).sessions) :
    (∃ stamp limit, op = .create stamp limit ∧ t = .fresh stamp) ∨
      ∃ s ∈ r.sessions, s.id ∉ op.createdIds ∧
        s.Follows (op.calls s.id) (r.batchOf s.id op) t := by
  cases op with
  | create stamp limit =>
    rcases eq_or_mem_of_mem_create ht with rfl | ⟨hold, hid⟩
    · exact .inl ⟨stamp, limit, rfl, rfl⟩
    · exact .inr ⟨t, hold, mt List.mem_singleton.1 hid, .refl t⟩
  | press i labels =>
    obtain ⟨s, hs, hst⟩ := exists_follows_of_mem_press h ht
    exact .inr ⟨s, hs, List.not_mem_nil, hst⟩
  | clear i =>
    obtain ⟨s, hs, hst⟩ := exists_follows_of_mem_clear ht
    exact .inr ⟨s, hs, List.not_mem_nil, hst⟩
  | delete i => exact .inr ⟨t, mem_of_mem_delete ht, List.not_mem_nil, .refl t⟩
  | display i => exact .inr ⟨t, ht, List.not_mem_nil, .refl t⟩
  | list => exact .inr ⟨t, ht, List.not_mem_nil, .refl t⟩
  | reset => cases ht

/-! ## Runs -/

/-- Where a session that is live after a run has come from: it was live before, or its id was given
out for the last time when it was created. -/
theorem exists_follows_of_mem_afterAll {r : Registry} (h : r.ids.Nodup) {ops : List Operation}
    {t : Session} (ht : t ∈ (r.afterAll ops).sessions) :
    (∃ s ∈ r.sessions, s.id ∉ createdIds ops ∧
      s.Follows (ownCalls s.id ops) (r.ownBatches s.id ops) t) ∨
      ∃ before stamp limit behind, ops = before ++ .create stamp limit :: behind ∧
        t.id ∉ createdIds behind ∧
        (Session.fresh stamp).Follows (ownCalls t.id behind)
          ((r.afterAll (before ++ [.create stamp limit])).ownBatches t.id behind) t := by
  -- The induction takes operations off in front: the session comes from the registry behind the
  -- first one, and `exists_follows_of_mem_after` traces it back through that.
  induction ops generalizing r with
  | nil => exact .inl ⟨t, ht, List.not_mem_nil, .refl t⟩
  | cons op ops ih =>
    rcases ih (nodup_ids_after h op) ht with ⟨s, hs, hlast, hst⟩ | hlater
    · rcases exists_follows_of_mem_after h hs with ⟨stamp, limit, rfl, rfl⟩ | ⟨u, hu, hop, hus⟩
      · rw [← hst.id] at hlast hst
        exact .inr ⟨[], stamp, limit, ops, rfl, hlast, hst⟩
      · rw [hus.id] at hlast hst
        exact .inl ⟨u, hu, by simp [hop, hlast], hus.trans hst⟩
    · obtain ⟨before, stamp, limit, behind, rfl, hlast, hst⟩ := hlater
      exact .inr ⟨op :: before, stamp, limit, behind, rfl, hlast, hst⟩

/-! ## Isolation -/

/-- After every run of operations a live session is what it was when it was last created, but for a
calculator to which its own batches and clearings were applied since then, and a key count made up
of its own batches that did not fail. -/
theorem isolated_afterAll (ops : List Operation) {s : Session}
    (hs : s ∈ (empty.afterAll ops).sessions) :
    (empty.afterAll ops).display? s.id = some s.calculator.display ∧
    (∃ before stamp limit behind, ops = before ++ .create stamp limit :: behind ∧
      stamp.id = s.id ∧ s.id ∉ createdIds behind) ∧
    ∀ before stamp limit behind, ops = before ++ .create stamp limit :: behind →
      stamp.id = s.id → s.id ∉ createdIds behind →
      s.createdAt = stamp.createdAt ∧
      s.calculator = Calculator.initial.afterAll (ownCalls s.id behind) ∧
      s.keyCount =
        (((empty.afterAll (before ++ [.create stamp limit])).ownBatches s.id behind).map
          List.length).sum := by
  have hnodup := nodup_ids_afterAll nodup_ids_empty ops
  refine ⟨by rw [display?, find?_of_mem hnodup hs, Option.map_some], ?_, ?_⟩
  · rcases exists_follows_of_mem_afterAll nodup_ids_empty hs with ⟨u, hu, -⟩ | h
    · cases hu
    · obtain ⟨before, stamp, limit, behind, hops, hlast, hfollows⟩ := h
      exact ⟨before, stamp, limit, behind, hops, hfollows.id.symm, hlast⟩
  · rintro before stamp limit behind rfl hid hlast
    have hcreated := nodup_ids_afterAll nodup_ids_empty (before ++ [.create stamp limit])
    rw [List.append_cons, afterAll_append] at hs
    rcases exists_follows_of_mem_afterAll hcreated hs with ⟨u, hu, -, hfollows⟩ | h
    · -- The last creation leaves no other session with the id than its own.
      rw [afterAll_append] at hu
      obtain rfl : u = .fresh stamp :=
        (eq_or_mem_of_mem_create hu).resolve_right fun hold =>
          hold.2 (hfollows.id.symm.trans hid.symm)
      rw [hfollows.id]
      refine ⟨congrArg Stamp.createdAt hfollows.stamp, hfollows.calculator, ?_⟩
      rw [hfollows.keyCount]
      exact Nat.zero_add _
    · obtain ⟨more, stamp', limit', _, rfl, -, hfollows⟩ := h
      have hstamp : stamp'.id = s.id := hfollows.id.symm
      exact absurd hlast (by simp [Operation.createdIds, hstamp])

/-- The second session outlives the first. Of its batches the one with a label of no key is pressed
up to that label, and does not count; what was done under its id before does not either. -/
theorem isolated_second_session :
    let ops : List Operation := [.create ⟨"a", "09:00"⟩ 2, .press "a" ["9"],
      .create ⟨"b", "09:05"⟩ 2, .press "b" ["5"], .delete "b", .create ⟨"b", "09:10"⟩ 2,
      .press "b" ["1", "+", "x", "7"], .press "a" ["C"], .press "b" ["2"],
      .create ⟨"c", "09:15"⟩ 2, .clear "c", .press "b" ["="], .delete "c"]
    ∃ s ∈ (empty.afterAll ops).sessions, s.toStamp = ⟨"b", "09:10"⟩ ∧
      s.calculator = Calculator.initial.afterAll
        [.pressMany ["1", "+"], .pressMany ["2"], .pressMany ["="]] ∧
      s.keyCount = 2 := by
  intro ops
  have hids : (empty.afterAll ops).ids = ["b"] := by decide +kernel
  obtain ⟨s, hs, hid⟩ : ∃ s ∈ (empty.afterAll ops).sessions, s.id = "b" := by
    have hmem : "b" ∈ (empty.afterAll ops).ids := by rw [hids]; exact List.mem_singleton_self _
    exact List.mem_map.1 hmem
  obtain ⟨-, -, hcreated⟩ := isolated_afterAll ops hs
  obtain ⟨htime, hcalculator, hcount⟩ :=
    hcreated (ops.take 5) ⟨"b", "09:10"⟩ 2 (ops.drop 6) rfl hid.symm (by rw [hid]; decide +kernel)
  rw [hid] at hcalculator hcount
  refine ⟨s, hs, Stamp.ext hid htime, hcalculator.trans ?_, hcount.trans ?_⟩
  · decide +kernel
  · decide +kernel

end Registry

end PocketCalculator
