import Mathlib.Data.List.Nodup
import PocketCalculator.Registry

/-!
# The order of sessions

Whatever is asked of a registry, its sessions stay in the order in which they were created, each
under an id of its own. Nothing but creating, deleting and resetting changes which sessions there
are, and a new session pushes out none but the oldest. Main statement: `order_afterAll`.

## Main definitions

* `Registry.Operation`, `Registry.afterAll` — what a host can ask of a registry, and the registry
  that is left behind.
* `Registry.createdIds` — the ids under which a run creates sessions, in order.
-/

namespace PocketCalculator

namespace Registry

/-! ## Operations -/

/-- What a host can ask of a registry. Ids and labels may be any text. -/
inductive Operation where
  | create (stamp : Stamp) (limit : Int)
  | display (id : String)
  | press (id : String) (labels : List String)
  | clear (id : String)
  | delete (id : String)
  | list
  | reset
deriving DecidableEq, Repr

/-- The registry that an operation leaves behind, also if it fails. -/
@[grind] def after (r : Registry) : Operation → Registry
  | .create stamp limit => (r.create stamp limit).1
  | .press id labels => (r.press id labels).1
  | .clear id => (r.clear id).1
  | .delete id => (r.delete id).1
  | .reset => r.reset
  | .display _ | .list => r

def afterAll (r : Registry) (ops : List Operation) : Registry := ops.foldl after r

@[simp] theorem afterAll_nil (r : Registry) : r.afterAll [] = r := rfl

@[simp] theorem afterAll_cons (r : Registry) (op : Operation) (ops : List Operation) :
    r.afterAll (op :: ops) = (r.after op).afterAll ops := rfl

theorem afterAll_append (r : Registry) (ops more : List Operation) :
    r.afterAll (ops ++ more) = (r.afterAll ops).afterAll more :=
  List.foldl_append

/-- An operation fails on a session that is not there and on a label that belongs to no key. -/
def Fails (r : Registry) : Operation → Prop
  | .display id => r.display? id = none
  | .press id labels => ∀ d, (r.press id labels).2 ≠ .pressed d
  | .clear id => (r.clear id).2 = none
  | .delete id => (r.delete id).2 = false
  | .create _ _ | .list | .reset => False

/-- Operations within one session, and those that only read. -/
def Operation.IsInner : Operation → Prop
  | .display _ | .press _ _ | .clear _ | .list => True
  | .create _ _ | .delete _ | .reset => False

/-! ## Ids -/

@[grind] def Operation.createdIds : Operation → List String
  | .create stamp _ => [stamp.id]
  | _ => []

/-- The ids under which a run creates sessions, in order. -/
def createdIds (ops : List Operation) : List String := ops.flatMap Operation.createdIds

@[simp] theorem createdIds_nil : createdIds [] = [] := rfl

@[simp] theorem createdIds_cons (op : Operation) (ops : List Operation) :
    createdIds (op :: ops) = op.createdIds ++ createdIds ops := rfl

@[simp] theorem createdIds_append (ops more : List Operation) :
    createdIds (ops ++ more) = createdIds ops ++ createdIds more :=
  List.flatMap_append

theorem ids_create_sublist (r : Registry) (stamp : Stamp) (limit : Int) :
    (r.create stamp limit).1.ids.Sublist
      (if stamp.id ∈ r.ids then r.ids else r.ids ++ [stamp.id]) := by
  rw [ids_create]
  grind [add, Session.fresh, List.drop_sublist]

theorem ids_after_sublist (r : Registry) (op : Operation) :
    (r.after op).ids.Sublist (r.ids ++ op.createdIds) := by
  cases op with
  | create stamp limit => grind [r.ids_create_sublist stamp limit, List.sublist_append_left]
  | delete id => simp [after, Operation.createdIds]
  | reset => exact List.nil_sublist _
  | _ => grind

theorem nodup_ids_after {r : Registry} (h : r.ids.Nodup) (op : Operation) :
    (r.after op).ids.Nodup := by
  cases op with
  | create stamp limit =>
    refine (r.ids_create_sublist stamp limit).nodup ?_
    grind
  | reset => exact List.nodup_nil
  | _ => grind

theorem nodup_ids_afterAll {r : Registry} (h : r.ids.Nodup) (ops : List Operation) :
    (r.afterAll ops).ids.Nodup := by
  induction ops generalizing r with
  | nil => exact h
  | cons op ops ih => exact ih (nodup_ids_after h op)

theorem nodup_ids_empty : empty.ids.Nodup := List.nodup_nil

/-- The live sessions are some of those created, in the order of creation. -/
theorem ids_afterAll_sublist (r : Registry) (ops : List Operation) :
    (r.afterAll ops).ids.Sublist (r.ids ++ createdIds ops) := by
  induction ops generalizing r with
  | nil => exact List.sublist_append_left _ _
  | cons op ops ih =>
    rw [createdIds_cons, ← List.append_assoc]
    exact (ih (r.after op)).trans ((r.ids_after_sublist op).append_right _)

/-! ## Operations within sessions -/

theorem ids_after_of_isInner {op : Operation} (h : op.IsInner) (r : Registry) :
    (r.after op).ids = r.ids := by
  cases op with
  | create stamp limit => exact h.elim
  | delete id => exact h.elim
  | reset => exact h.elim
  | _ => grind

theorem ids_after_of_fails {r : Registry} {op : Operation} (h : r.Fails op) :
    (r.after op).ids = r.ids := by
  cases op with
  | delete id => rw [after, delete_of_false h]
  | create stamp limit => exact h.elim
  | reset => exact h.elim
  | _ => grind

/-! ## A new session -/

/-- A new session stands behind the newest of the old ones, as many as there is room for. -/
theorem sessions_create {r : Registry} {stamp : Stamp} (h : stamp.id ∉ r.ids) (limit : Int) :
    (r.create stamp limit).1.sessions =
      r.sessions.drop (r.sessions.length + 1 - capacity limit) ++ [Session.fresh stamp] := by
  have hroom : r.sessions.length + 1 - capacity limit ≤ r.sessions.length := by
    rw [capacity]
    omega
  have hadd : (r.add stamp).sessions = r.sessions ++ [Session.fresh stamp] :=
    congrArg Registry.sessions (put_of_notMem h)
  rw [create, trim, evict_eq_drop, hadd, List.length_append, List.length_singleton,
    List.drop_append_of_le_length hroom]

theorem length_sessions_create {r : Registry} {stamp : Stamp} (h : stamp.id ∉ r.ids)
    (limit : Int) :
    ((r.create stamp limit).1.sessions.length : Int) =
      min ((r.sessions.length : Int) + 1) (max 1 limit) := by
  grind [sessions_create h, capacity]

theorem ids_list (r : Registry) : r.list.map (·.id) = r.ids := by
  simp [list, ids, Session.info]

/-- After every run of operations the sessions are listed in the order of creation under distinct
ids, and what is done within a session, or fails, leaves that list as it is. A session under an id
that is not live finds its place behind the newest of the others, in which nothing changes. -/
theorem order_afterAll (ops : List Operation) :
    let r := empty.afterAll ops
    r.ids.Nodup ∧ r.list.map (·.id) = r.ids ∧ r.ids.Sublist (createdIds ops) ∧
    (∀ op, op.IsInner ∨ r.Fails op → (r.after op).ids = r.ids) ∧
    ∀ stamp limit, stamp.id ∉ r.ids → ∃ dropped kept,
      r.sessions = dropped ++ kept ∧
      (r.create stamp limit).1.sessions = kept ++ [⟨stamp, .initial, 0⟩] ∧
      (r.create stamp limit).2 = ⟨stamp, .initial, 0⟩ ∧
      ((r.create stamp limit).1.sessions.length : Int) =
        min ((r.sessions.length : Int) + 1) (max 1 limit) := by
  intro r
  refine ⟨nodup_ids_afterAll nodup_ids_empty ops, r.ids_list, ids_afterAll_sublist empty ops,
    fun op h => h.elim (ids_after_of_isInner · r) ids_after_of_fails, fun stamp limit h => ?_⟩
  exact ⟨_, _, (List.take_append_drop (r.sessions.length + 1 - capacity limit) r.sessions).symm,
    sessions_create h limit, rfl, length_sessions_create h limit⟩

end Registry

end PocketCalculator
