import PocketCalculator.Calculator

/-!
# Sessions

A registry keeps one calculator for each session, the oldest session first. It holds a limited
number of them: a new session pushes out the oldest ones. Where ids come from is left open; an id
that is given out while its session is live starts that session anew. Pressing keys and clearing
never change which sessions there are, nor their order.
-/

namespace PocketCalculator

/-- What a session is marked with when it is created. -/
@[ext]
structure Stamp where
  id : String
  /-- The time of creation, as a text. -/
  createdAt : String
deriving DecidableEq, Repr

structure Session extends Stamp where
  calculator : Calculator
  /-- How many keys have been pressed, by requests that pressed all of theirs. -/
  keyCount : Nat
deriving DecidableEq

def Session.fresh (stamp : Stamp) : Session := ⟨stamp, .initial, 0⟩

/-- What is told about a session in a list of sessions. -/
structure SessionInfo extends Stamp where
  keyCount : Nat
deriving DecidableEq, Repr

def Session.info (s : Session) : SessionInfo := ⟨s.toStamp, s.keyCount⟩

structure Registry where
  sessions : List Session
deriving DecidableEq

namespace Registry

def empty : Registry := ⟨[]⟩

def find? (r : Registry) (id : String) : Option Session :=
  r.sessions.find? (·.id = id)

def update (r : Registry) (id : String) (f : Session → Session) : Registry :=
  ⟨r.sessions.map fun s => if s.id = id then f s else s⟩

/-- Puts a session in the place of the one that has its id, or else behind all others. -/
def put (r : Registry) (s : Session) : Registry :=
  match r.find? s.id with
  | none => ⟨r.sessions ++ [s]⟩
  | some _ => r.update s.id fun _ => s

/-- How many sessions a limit leaves room for; a new session always finds room. -/
def capacity (limit : Int) : Nat := (max 1 limit).toNat

/-- Adds a new session, whatever the limit. -/
def add (r : Registry) (stamp : Stamp) : Registry := r.put (.fresh stamp)

/-- Drops the oldest session as long as there are more of them than the limit leaves room for. -/
def evict (limit : Int) : List Session → List Session
  | [] => []
  | s :: ss => if max 1 limit < ((s :: ss).length : Int) then evict limit ss else s :: ss

def trim (r : Registry) (limit : Int) : Registry := ⟨evict limit r.sessions⟩

def create (r : Registry) (stamp : Stamp) (limit : Int) : Registry × Session :=
  ((r.add stamp).trim limit, .fresh stamp)

def display? (r : Registry) (id : String) : Option Display :=
  (r.find? id).map (·.calculator.display)

/-- The outcome of pressing keys in a session. -/
inductive Pressed where
  | unknownSession
  | unknownKey (e : Calculator.UnknownKey)
  | pressed (d : Display)
deriving DecidableEq

/-- Presses labels in a session. Those before an unknown label stay pressed but are not counted. -/
def press (r : Registry) (id : String) (labels : List String) : Registry × Pressed :=
  match r.find? id with
  | none => (r, .unknownSession)
  | some s =>
    match s.calculator.pressLabels labels with
    | (c, none) =>
      (r.update id fun t => { t with calculator := c, keyCount := t.keyCount + labels.length },
        .pressed c.display)
    | (c, some e) => (r.update id fun t => { t with calculator := c }, .unknownKey e)

/-- Clears the calculator of a session; its key count stays. -/
def clear (r : Registry) (id : String) : Registry × Option Display :=
  match r.find? id with
  | none => (r, none)
  | some _ =>
    (r.update id fun t => { t with calculator := .initial }, some Calculator.initial.display)

/-- Removes a session and tells whether there was one. -/
def delete (r : Registry) (id : String) : Registry × Bool :=
  match r.find? id with
  | none => (r, false)
  | some _ => (⟨r.sessions.filter (·.id ≠ id)⟩, true)

/-- Drops every session. -/
def reset (_ : Registry) : Registry := empty

/-- The oldest session first. -/
def list (r : Registry) : List SessionInfo := r.sessions.map Session.info

/-! ## Eviction -/

/-- The loop leaves the newest sessions, as many as there is room for. -/
theorem evict_eq_drop (limit : Int) (ss : List Session) :
    evict limit ss = ss.drop (ss.length - capacity limit) := by
  induction ss with
  | nil => rw [evict, List.drop_nil]
  | cons s ss ih =>
    rw [evict, List.length_cons, capacity]
    rw [capacity] at ih
    split
    · next h =>
      have hcut : ss.length + 1 - (max 1 limit).toNat = ss.length - (max 1 limit).toNat + 1 := by
        omega
      rw [hcut, List.drop_succ_cons, ih]
    · next h =>
      have hroom : ss.length + 1 - (max 1 limit).toNat = 0 := by omega
      rw [hroom, List.drop_zero]

/-! ## Ids -/

/-- The ids of the live sessions, the oldest first. -/
def ids (r : Registry) : List String := r.sessions.map (·.id)

theorem find?_eq_none_iff {r : Registry} {id : String} : r.find? id = none ↔ id ∉ r.ids := by
  simp [find?, ids]

theorem ids_update (r : Registry) (id : String) {f : Session → Session}
    (h : ∀ s, s.id = id → (f s).id = id) : (r.update id f).ids = r.ids := by
  simp only [ids, update, List.map_map]
  refine List.map_congr_left fun s _ => ?_
  grind

theorem put_of_notMem {r : Registry} {s : Session} (h : s.id ∉ r.ids) :
    r.put s = ⟨r.sessions ++ [s]⟩ := by
  rw [put, find?_eq_none_iff.2 h]

theorem put_of_mem {r : Registry} {s : Session} (h : s.id ∈ r.ids) :
    r.put s = r.update s.id fun _ => s := by
  cases hs : r.find? s.id with
  | none => exact absurd h (find?_eq_none_iff.1 hs)
  | some t => rw [put, hs]

/-- A session gets a place of its own unless its id has one. -/
@[grind =] theorem ids_put (r : Registry) (s : Session) :
    (r.put s).ids = if s.id ∈ r.ids then r.ids else r.ids ++ [s.id] := by
  split
  · next h => rw [put_of_mem h, ids_update r s.id fun _ _ => rfl]
  · next h => simp [put_of_notMem h, ids]

@[grind =] theorem ids_create (r : Registry) (stamp : Stamp) (limit : Int) :
    (r.create stamp limit).1.ids =
      (r.add stamp).ids.drop ((r.add stamp).sessions.length - capacity limit) := by
  simp only [create, trim, evict_eq_drop, ids, List.map_drop]

@[simp, grind =] theorem ids_press (r : Registry) (id : String) (labels : List String) :
    (r.press id labels).1.ids = r.ids := by
  unfold press
  split
  · rfl
  · split <;> exact ids_update r id fun _ hs => hs

@[simp, grind =] theorem ids_clear (r : Registry) (id : String) : (r.clear id).1.ids = r.ids := by
  unfold clear
  split
  · rfl
  · exact ids_update r id fun _ hs => hs

@[simp, grind =] theorem ids_delete (r : Registry) (id : String) :
    (r.delete id).1.ids = r.ids.filter (· ≠ id) := by
  unfold delete
  split
  · rename_i h
    simp only [find?, List.find?_eq_none, decide_eq_true_eq] at h
    exact (List.filter_eq_self.2 (by simpa [ids] using h)).symm
  · simp [ids, List.filter_map, Function.comp_def]

/-! ## Looking up -/

theorem exists_of_mem_update {r : Registry} {id : String} {f : Session → Session} {t : Session}
    (ht : t ∈ (r.update id f).sessions) :
    ∃ s ∈ r.sessions, (s.id = id ∧ t = f s) ∨ (s.id ≠ id ∧ t = s) := by
  obtain ⟨s, hs, rfl⟩ := List.mem_map.1 ht
  exact ⟨s, hs, by grind⟩

theorem mem_of_find? {r : Registry} {id : String} {s : Session} (h : r.find? id = some s) :
    s ∈ r.sessions ∧ s.id = id :=
  ⟨List.mem_of_find?_eq_some h, by simpa using List.find?_some h⟩

theorem id_ne_of_find?_none {r : Registry} {id : String} (h : r.find? id = none) {s : Session}
    (hs : s ∈ r.sessions) : s.id ≠ id := by
  rw [find?, List.find?_eq_none] at h
  simpa using h s hs

/-- What a registry holds after a session has been put into it: that session under its id, and the
others as they were. -/
theorem eq_or_mem_of_mem_put {r : Registry} {s t : Session} (ht : t ∈ (r.put s).sessions) :
    t = s ∨ (t ∈ r.sessions ∧ t.id ≠ s.id) := by
  by_cases h : s.id ∈ r.ids
  · rw [put_of_mem h] at ht
    grind [exists_of_mem_update ht]
  · rw [put_of_notMem h] at ht
    grind [ids]

/-! ## Sessions that are not there -/

theorem display?_of_notMem {r : Registry} {id : String} (h : id ∉ r.ids) :
    r.display? id = none := by
  rw [display?, find?_eq_none_iff.2 h, Option.map_none]

theorem press_of_notMem {r : Registry} {id : String} (h : id ∉ r.ids) (labels : List String) :
    r.press id labels = (r, .unknownSession) := by
  rw [press, find?_eq_none_iff.2 h]

theorem clear_of_notMem {r : Registry} {id : String} (h : id ∉ r.ids) :
    r.clear id = (r, none) := by
  rw [clear, find?_eq_none_iff.2 h]

theorem delete_of_notMem {r : Registry} {id : String} (h : id ∉ r.ids) :
    r.delete id = (r, false) := by
  rw [delete, find?_eq_none_iff.2 h]

theorem delete_snd_iff {r : Registry} {id : String} : (r.delete id).2 = true ↔ id ∈ r.ids := by
  by_cases h : id ∈ r.ids
  · refine iff_of_true ?_ h
    unfold delete
    split
    · next hnone => exact absurd h (find?_eq_none_iff.1 hnone)
    · rfl
  · refine iff_of_false ?_ h
    rw [delete_of_notMem h]
    exact Bool.false_ne_true

theorem press_of_unknownSession {r : Registry} {id : String} {labels : List String}
    (h : (r.press id labels).2 = .unknownSession) : (r.press id labels).1 = r := by
  unfold press at h ⊢
  split at h
  · rfl
  · split at h <;> cases h

theorem clear_of_none {r : Registry} {id : String} (h : (r.clear id).2 = none) :
    (r.clear id).1 = r := by
  unfold clear at h ⊢
  split at h
  · rfl
  · cases h

theorem delete_of_false {r : Registry} {id : String} (h : (r.delete id).2 = false) :
    (r.delete id).1 = r := by
  unfold delete at h ⊢
  split at h
  · rfl
  · cases h

end Registry

end PocketCalculator
