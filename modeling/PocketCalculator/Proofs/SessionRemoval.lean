import Mathlib.Data.List.Nodup
import PocketCalculator.Proofs.RegistryOrder

/-!
# Sessions that are gone

A session leaves the registry when it is deleted, when newer sessions push it out, and when all
sessions are dropped. Over a run that gives out no id twice, every id is live in the end or was lost
once, in one of these ways, and an id that was lost is never found again. Main statements:
`losses_perm`, which accounts for every id, and `gone_afterAll`.

## Main definitions

* `Registry.Cause` — the ways in which a session leaves the registry.
* `Registry.losses` — the ids that a run loses, each with the cause, in order.
-/

namespace PocketCalculator

namespace Registry

/-! ## Losses -/

/-- How a session leaves the registry. -/
inductive Cause where
  | deleted
  | evicted
  | dropped
deriving DecidableEq, Repr

/-- The ids that an operation loses. A deletion counts when it reports that there was a session. -/
def lossesBy (r : Registry) : Operation → List (Cause × String)
  | .create stamp limit => (r.ids.filter (· ∉ (r.create stamp limit).1.ids)).map (.evicted, ·)
  | .delete id => if (r.delete id).2 then [(.deleted, id)] else []
  | .reset => r.ids.map (.dropped, ·)
  | .display _ | .press _ _ | .clear _ | .list => []

def losses (r : Registry) : List Operation → List (Cause × String)
  | [] => []
  | op :: ops => r.lossesBy op ++ (r.after op).losses ops

/-! ## One operation -/

/-- What an operation loses was live before it and is not live after it. -/
theorem mem_lossesBy_iff (r : Registry) (op : Operation) (id : String) :
    id ∈ (r.lossesBy op).map Prod.snd ↔ id ∈ r.ids ∧ id ∉ (r.after op).ids := by
  cases op with
  | delete i =>
    have hdelete : (r.delete i).2 = true ↔ i ∈ r.ids := delete_snd_iff
    grind [lossesBy]
  | reset => simp [lossesBy, after, reset, empty, ids]
  | _ => simp [lossesBy, after]

theorem nodup_lossesBy {r : Registry} (h : r.ids.Nodup) (op : Operation) :
    ((r.lossesBy op).map Prod.snd).Nodup := by
  cases op with
  | create stamp limit => simpa [lossesBy, Function.comp_def] using h.filter _
  | delete i =>
    rw [lossesBy]
    split <;> simp
  | reset => simpa [lossesBy, Function.comp_def] using h
  | _ => exact List.nodup_nil

theorem createdIds_subset_ids_after {r : Registry} {op : Operation}
    (h : (r.ids ++ op.createdIds).Nodup) : ∀ id ∈ op.createdIds, id ∈ (r.after op).ids := by
  intro id hid
  cases op with
  | create stamp limit =>
    obtain rfl := List.mem_singleton.1 hid
    have hnew : stamp.id ∉ r.ids := List.disjoint_singleton.1 h.disjoint
    rw [after, ids, sessions_create hnew, List.map_append]
    exact List.mem_append_right _ (List.mem_singleton_self _)
  | _ => cases hid

/-- An operation loses or keeps what is live, and keeps what it adds. -/
theorem lossesBy_perm {r : Registry} {op : Operation} (h : (r.ids ++ op.createdIds).Nodup) :
    ((r.lossesBy op).map Prod.snd ++ (r.after op).ids).Perm (r.ids ++ op.createdIds) := by
  have hlive : r.ids.Nodup := h.of_append_left
  have hdisjoint : ((r.lossesBy op).map Prod.snd).Disjoint (r.after op).ids :=
    fun id hlost => ((mem_lossesBy_iff r op id).1 hlost).2
  have hnodup := (nodup_lossesBy hlive op).append (nodup_ids_after hlive op) hdisjoint
  rw [List.perm_ext_iff_of_nodup hnodup h]
  intro id
  rw [List.mem_append, mem_lossesBy_iff]
  constructor
  · rintro (⟨hid, -⟩ | hid)
    · exact List.mem_append_left _ hid
    · exact (r.ids_after_sublist op).subset hid
  · intro hid
    by_cases hafter : id ∈ (r.after op).ids
    · exact .inr hafter
    · refine .inl ⟨?_, hafter⟩
      rcases List.mem_append.1 hid with hold | hnew
      · exact hold
      · exact absurd (createdIds_subset_ids_after h id hnew) hafter

/-! ## Runs -/

/-- Every id that was live or given out is lost once or live in the end. -/
theorem losses_perm {r : Registry} {ops : List Operation} (h : (r.ids ++ createdIds ops).Nodup) :
    ((r.losses ops).map Prod.snd ++ (r.afterAll ops).ids).Perm (r.ids ++ createdIds ops) := by
  induction ops generalizing r with
  | nil => simp [losses]
  | cons op ops ih =>
    rw [createdIds_cons, ← List.append_assoc] at h
    have hrest := ih (((r.ids_after_sublist op).append_right _).nodup h)
    calc (r.losses (op :: ops)).map Prod.snd ++ (r.afterAll (op :: ops)).ids
      _ = (r.lossesBy op).map Prod.snd ++
            (((r.after op).losses ops).map Prod.snd ++ ((r.after op).afterAll ops).ids) := by
          rw [losses, List.map_append, List.append_assoc, afterAll_cons]
      List.Perm _ ((r.lossesBy op).map Prod.snd ++ ((r.after op).ids ++ createdIds ops)) :=
          hrest.append_left _
      List.Perm _ (r.ids ++ op.createdIds ++ createdIds ops) := by
          rw [← List.append_assoc]
          exact (lossesBy_perm h.of_append_left).append_right _
      _ = r.ids ++ createdIds (op :: ops) := by rw [createdIds_cons, List.append_assoc]

section

variable {ops : List Operation} (h : (createdIds ops).Nodup)

include h

theorem losses_empty_perm :
    ((empty.losses ops).map Prod.snd ++ (empty.afterAll ops).ids).Perm (createdIds ops) :=
  losses_perm (r := empty) h

theorem nodup_losses_append_ids :
    ((empty.losses ops).map Prod.snd ++ (empty.afterAll ops).ids).Nodup :=
  (losses_empty_perm h).nodup_iff.2 h

theorem notMem_ids_of_mem_losses {cause : Cause} {id : String}
    (hlost : (cause, id) ∈ empty.losses ops) : id ∉ (empty.afterAll ops).ids :=
  (nodup_losses_append_ids h).disjoint (List.mem_map_of_mem (f := Prod.snd) hlost)

end

/-- A session that is gone stays gone. After every run of operations that gives out no id twice, a
session that was deleted, evicted or dropped is not found, and asking for it changes nothing. A
deletion succeeds only for an id that was given out and is not gone yet, so at most once for an id,
and never for one that was evicted. -/
theorem gone_afterAll {ops : List Operation} (h : (createdIds ops).Nodup) :
    let r := empty.afterAll ops
    (∀ cause id, (cause, id) ∈ empty.losses ops →
      r.display? id = none ∧ (∀ labels, r.press id labels = (r, .unknownSession)) ∧
        r.clear id = (r, none) ∧ r.delete id = (r, false)) ∧
    (∀ id, (r.delete id).2 = true →
      id ∈ createdIds ops ∧ ∀ cause, (cause, id) ∉ empty.losses ops) ∧
    (∀ id, (empty.losses ops).count (.deleted, id) ≤ 1) ∧
    ∀ id, (.deleted, id) ∈ empty.losses ops →
      (.evicted, id) ∉ empty.losses ops ∧ id ∈ createdIds ops := by
  intro r
  have hnodup : ((empty.losses ops).map Prod.snd).Nodup :=
    (nodup_losses_append_ids h).of_append_left
  refine ⟨?_, ?_, ?_, ?_⟩
  · intro cause id hlost
    have hid : id ∉ r.ids := notMem_ids_of_mem_losses h hlost
    exact ⟨display?_of_notMem hid, press_of_notMem hid, clear_of_notMem hid, delete_of_notMem hid⟩
  · intro id hdelete
    have hid : id ∈ r.ids := delete_snd_iff.1 hdelete
    exact ⟨(losses_empty_perm h).subset (List.mem_append_right _ hid),
      fun _ hlost => notMem_ids_of_mem_losses h hlost hid⟩
  · exact fun id => List.nodup_iff_count_le_one.1 hnodup.of_map (.deleted, id)
  · intro id hdeleted
    refine ⟨fun hevicted => ?_, ?_⟩
    · have hsame := List.inj_on_of_nodup_map hnodup hdeleted hevicted rfl
      cases hsame
    · exact (losses_empty_perm h).subset
        (List.mem_append_left _ (List.mem_map_of_mem (f := Prod.snd) hdeleted))

/-- A run that loses its three sessions in the three ways, and asks for them again. -/
theorem gone_three_ways :
    let ops : List Operation := [.create ⟨"a", "09:00"⟩ 1, .create ⟨"b", "09:05"⟩ 1,
      .press "a" ["7"], .delete "b", .delete "b", .create ⟨"c", "09:10"⟩ 2, .reset, .display "c"]
    let r := empty.afterAll ops
    (createdIds ops).Nodup ∧
      empty.losses ops = [(.evicted, "a"), (.deleted, "b"), (.dropped, "c")] ∧
      r.display? "a" = none ∧ r.clear "b" = (r, none) ∧ r.delete "c" = (r, false) := by
  intro ops r
  have hids : (createdIds ops).Nodup := by decide
  have hlosses : empty.losses ops = [(.evicted, "a"), (.deleted, "b"), (.dropped, "c")] := by
    decide +kernel
  obtain ⟨hgone, -⟩ := gone_afterAll hids
  obtain ⟨ha, -⟩ := hgone .evicted "a" (by rw [hlosses]; decide)
  obtain ⟨-, -, hb, -⟩ := hgone .deleted "b" (by rw [hlosses]; decide)
  obtain ⟨-, -, -, hc⟩ := hgone .dropped "c" (by rw [hlosses]; decide)
  exact ⟨hids, hlosses, ha, hb, hc⟩

end Registry

end PocketCalculator
