import PocketCalculator.Http.Api

/-!
# What a request does to the registry

A request that is refused leaves the registry as it was, and so does one that only reads or that
evaluates an expression. Keys are pressed for a whole batch or not at all, because a batch is
checked before the first of its keys is pressed. Main statement: `atomic_answer`.

## Main definitions

* `IsHarmless` — a request that is refused, reads, or evaluates an expression.
-/

namespace PocketCalculator

/-! ## Checked labels -/

theorem eq_ok_of_mapError_eq_ok {α ε ε' : Type} {f : ε → ε'} {x : Except ε α} {a : α}
    (h : x.mapError f = .ok a) : x = .ok a := by
  cases x with
  | error e => cases h
  | ok b => exact congrArg Except.ok (Except.ok.inj h)

theorem isSome_of_mem_checkLabels {vs : List Json} {labels : List String}
    (h : checkLabels vs = .ok labels) : ∀ l ∈ labels, (Key.ofLabel? l).isSome = true := by
  induction vs generalizing labels with
  | nil =>
    obtain rfl := Except.ok.inj h
    exact List.forall_mem_nil _
  | cons v r ih =>
    cases v with
    | string s =>
      rw [checkLabels] at h
      split at h
      · next hs =>
        cases hr : checkLabels r with
        | error e => rw [hr] at h; cases h
        | ok ls =>
          rw [hr] at h
          obtain rfl := Except.ok.inj h
          exact List.forall_mem_cons.2 ⟨hs, ih hr⟩
      · cases h
    | _ => cases h

theorem isSome_of_mem_requestedLabels {members : List (String × Json)} {labels : List String}
    (h : requestedLabels members = .ok labels) : ∀ l ∈ labels, (Key.ofLabel? l).isSome = true := by
  unfold requestedLabels at h
  split at h
  · exact isSome_of_mem_checkLabels (eq_ok_of_mapError_eq_ok h)
  · cases h
  · split at h
    · exact isSome_of_mem_checkLabels (eq_ok_of_mapError_eq_ok h)
    · cases h

/-- A row of key labels is pressed to its end. -/
theorem Calculator.pressLabels_of_isSome {labels : List String}
    (h : ∀ l ∈ labels, (Key.ofLabel? l).isSome = true) (c : Calculator) :
    (c.pressLabels labels).2 = none := by
  induction labels generalizing c with
  | nil => rfl
  | cons l r ih =>
    obtain ⟨hl, hr⟩ := List.forall_mem_cons.1 h
    obtain ⟨k, hk⟩ := Option.isSome_iff_exists.1 hl
    rw [pressLabels, hk]
    exact ih hr (c.press k)

namespace Registry

theorem press_ne_unknownKey {labels : List String}
    (h : ∀ l ∈ labels, (Key.ofLabel? l).isSome = true) (r : Registry) (id : String)
    (e : Calculator.UnknownKey) : (r.press id labels).2 ≠ .unknownKey e := by
  unfold press
  split
  · simp
  · next s _ =>
    have hall := s.calculator.pressLabels_of_isSome h
    split
    · simp
    · next hp => rw [hp] at hall; cases hall

/-! ## One resource -/

/-- A batch of keys is pressed as a whole or not at all. -/
theorem answerKeys_cases (r : Registry) (id : String) (body : Body) :
    (r.answerKeys id body).1 = r ∨ (r.answerKeys id body).2.status = 200 := by
  unfold answerKeys
  split
  · split
    · exact .inl rfl
    · exact .inl rfl
    · next labels hlabels =>
      have hknown := isSome_of_mem_requestedLabels hlabels
      split
      · exact .inr rfl
      · next r' hpress =>
        have hr := press_of_unknownSession (congrArg Prod.snd hpress)
        rw [hpress] at hr
        exact .inl hr
      · next r' e hpress =>
        exact absurd (congrArg Prod.snd hpress) (press_ne_unknownKey hknown r id e)
  · exact .inl rfl

theorem answerRoute_clear_cases (limit : Except Settings.LimitError Int) (r : Registry)
    (stamp : Stamp) (id : String) (body : Body) :
    (r.answerRoute limit stamp (.sessionClear id) .post body).1 = r ∨
      (r.answerRoute limit stamp (.sessionClear id) .post body).2.status = 200 := by
  simp only [answerRoute]
  split
  · exact .inr rfl
  · next hclear =>
    have hr := clear_of_none (congrArg Prod.snd hclear)
    rw [hclear] at hr
    exact .inl hr

theorem answerRoute_delete_cases (limit : Except Settings.LimitError Int) (r : Registry)
    (stamp : Stamp) (id : String) (body : Body) :
    (r.answerRoute limit stamp (.session id) .delete body).1 = r ∨
      (r.answerRoute limit stamp (.session id) .delete body).2.status = 200 := by
  simp only [answerRoute]
  split
  · exact .inr rfl
  · next hdelete =>
    have hr := delete_of_false (congrArg Prod.snd hdelete)
    rw [hdelete] at hr
    exact .inl hr

/-- What an allowed method does to a resource: nothing, or it succeeds in changing the registry. A
session that was added for want of a limit is the one exception. -/
theorem answerRoute_cases (limit : Except Settings.LimitError Int) (r : Registry) (stamp : Stamp)
    {route : Route} {m : Method} (h : route.allows m = true) (body : Body) :
    (r.answerRoute limit stamp route m body).1 = r ∨
      (m = .post ∨ m = .delete) ∧ route ≠ .evaluate ∧
        ((r.answerRoute limit stamp route m body).2.status = 200 ∨
          (r.answerRoute limit stamp route m body).2.status = 201 ∨
          (∃ e, limit = .error e) ∧ (r.answerRoute limit stamp route m body).2.status = 500) := by
  cases route with
  | health => cases m <;> exact .inl rfl
  | keypad => cases m <;> exact .inl rfl
  | file => cases m <;> exact .inl rfl
  | evaluate => cases m <;> exact .inl rfl
  | sessions =>
    cases m with
    | post =>
      right
      cases limit with
      | ok n => exact ⟨.inl rfl, by simp, .inr (.inl rfl)⟩
      | error e => exact ⟨.inl rfl, by simp, .inr (.inr ⟨⟨e, rfl⟩, rfl⟩)⟩
    | _ => exact .inl rfl
  | session id =>
    cases m with
    | delete =>
      exact (r.answerRoute_delete_cases limit stamp id body).imp_right
        fun hok => ⟨.inr rfl, by simp, .inl hok⟩
    | options => exact .inl rfl
    | _ =>
      left
      simp only [answerRoute]
      split <;> rfl
  | sessionKeys id =>
    cases m with
    | post => exact (r.answerKeys_cases id body).imp_right fun hok => ⟨.inl rfl, by simp, .inl hok⟩
    | options => exact .inl rfl
    | _ => simp [Route.allows, Route.methodSets] at h
  | sessionClear id =>
    cases m with
    | post =>
      exact (r.answerRoute_clear_cases limit stamp id body).imp_right
        fun hok => ⟨.inl rfl, by simp, .inl hok⟩
    | options => exact .inl rfl
    | _ => simp [Route.allows, Route.methodSets] at h

end Registry

/-! ## Routing -/

namespace Route

theorem allows_of_ofPath {path : List Char} {m : Method} {route : Route}
    (h : ofPath path m = .found route) :
    ofSegments? (segments path) = some route ∧ route.allows m = true := by
  unfold ofPath at h
  grind

theorem ofSocketPath_ne_found (path : List Char) (m : Method) (route : Route) :
    ofSocketPath path m ≠ .found route := by
  unfold ofSocketPath
  grind

/-- A resource is found by the segments of the path, and only for methods that it allows. -/
theorem allows_of_ofRequest {q : Request} {route : Route} (h : ofRequest q = .found route) :
    ofSegments? (segments q.destination.path) = some route ∧ route.allows q.method = true := by
  unfold ofRequest at h
  split at h
  · exact absurd h (ofSocketPath_ne_found _ _ route)
  · exact allows_of_ofPath h

theorem ofSegments?_evaluate : ofSegments? (segments "api/evaluate".toList) = some .evaluate := by
  decide

end Route

namespace Registry

/-! ## Any request -/

section

variable (limit : Except Settings.LimitError Int)

/-- A response without its body has the status that it has with it. -/
theorem answer_of_found (r : Registry) (stamp : Stamp) {q : Request} {route : Route}
    (hhost : q.destination.hasProperHost = true) (hroute : Route.ofRequest q = .found route) :
    (r.answer limit stamp q).1 = (r.answerRoute limit stamp route q.method q.body).1 ∧
      (r.answer limit stamp q).2.status =
        (r.answerRoute limit stamp route q.method q.body).2.status := by
  simp only [answer, hhost, hroute]
  generalize r.answerRoute limit stamp route q.method q.body = a
  cases q.asksForHeadOnly <;> exact ⟨rfl, rfl⟩

theorem answer_of_not_found (r : Registry) (stamp : Stamp) {q : Request}
    (h : ¬(q.destination.hasProperHost = true ∧ ∃ route, Route.ofRequest q = .found route)) :
    (r.answer limit stamp q).1 = r := by
  unfold answer
  grind

/-- What a request does to a registry: nothing, or it is answered with success. A session that was
added for want of a limit is the one exception. -/
theorem answer_cases (r : Registry) (stamp : Stamp) (q : Request) :
    (r.answer limit stamp q).1 = r ∨
      (q.method = .post ∨ q.method = .delete) ∧ q.destination.path ≠ "api/evaluate".toList ∧
        ((r.answer limit stamp q).2.status = 200 ∨ (r.answer limit stamp q).2.status = 201 ∨
          (∃ e, limit = .error e) ∧ (r.answer limit stamp q).2.status = 500) := by
  by_cases h : q.destination.hasProperHost = true ∧ ∃ route, Route.ofRequest q = .found route
  · obtain ⟨hhost, route, hroute⟩ := h
    obtain ⟨hregistry, hstatus⟩ := r.answer_of_found limit stamp hhost hroute
    obtain ⟨hsegments, hallows⟩ := Route.allows_of_ofRequest hroute
    rw [hregistry, hstatus]
    refine (r.answerRoute_cases limit stamp hallows q.body).imp_right fun ⟨hm, hne, hsuccess⟩ =>
      ⟨hm, fun hpath => ?_, hsuccess⟩
    rw [hpath, Route.ofSegments?_evaluate] at hsegments
    exact hne (Option.some.inj hsegments).symm
  · exact .inl (r.answer_of_not_found limit stamp h)

end

end Registry

/-- A request that is refused, one that only reads, and one that evaluates an expression. The path
is the decoded one without the slashes in front. -/
def IsHarmless (q : Request) (p : Response) : Prop :=
  (400 ≤ p.status ∧ p.status < 500) ∨ (q.method ≠ .post ∧ q.method ≠ .delete) ∨
    q.destination.path = "api/evaluate".toList

namespace Registry

variable (limit : Except Settings.LimitError Int)

theorem answer_fst_of_isHarmless {r : Registry} {stamp : Stamp} {q : Request}
    (h : IsHarmless q (r.answer limit stamp q).2) : (r.answer limit stamp q).1 = r := by
  rcases r.answer_cases limit stamp q with hr | ⟨hm, hpath, hstatus⟩
  · exact hr
  · rcases h with hrefused | ⟨hpost, hdelete⟩ | hevaluate
    · omega
    · exact absurd hm (by simp [hpost, hdelete])
    · exact absurd hevaluate hpath

/-! ## Runs of requests -/

theorem answerAll_cons (r : Registry) (stamp : Stamp) (q : Request) (qs : List (Stamp × Request)) :
    r.answerAll limit ((stamp, q) :: qs) =
      (((r.answer limit stamp q).1.answerAll limit qs).1,
        (r.answer limit stamp q).2 :: ((r.answer limit stamp q).1.answerAll limit qs).2) := rfl

/-- A run without one of its harmless requests ends in the same registry, with the same responses
to the others. -/
theorem answerAll_eraseIdx {r : Registry} {qs : List (Stamp × Request)} {i : Nat} {stamp : Stamp}
    {q : Request} {p : Response} (hq : qs[i]? = some (stamp, q))
    (hp : (r.answerAll limit qs).2[i]? = some p) (h : IsHarmless q p) :
    r.answerAll limit (qs.eraseIdx i) =
      ((r.answerAll limit qs).1, (r.answerAll limit qs).2.eraseIdx i) := by
  -- In front of the request nothing differs; the request itself hands on the registry it got.
  induction qs generalizing r i with
  | nil => cases hq
  | cons first qs ih =>
    obtain ⟨stamp₀, q₀⟩ := first
    rw [answerAll_cons] at hp ⊢
    cases i with
    | zero =>
      cases hq
      cases hp
      rw [answer_fst_of_isHarmless limit h]
      rfl
    | succ i =>
      rw [List.eraseIdx_cons_succ, List.eraseIdx_cons_succ, answerAll_cons, ih hq hp]

/-- Requests are all or nothing. One that is refused, that is neither a `POST` nor a `DELETE`, or
that evaluates an expression leaves any registry as it is, so that in a run no other response
depends on it. And whatever changes a registry succeeds, provided that the limit of sessions is a
number. -/
theorem atomic_answer :
    (∀ (r : Registry) stamp q, IsHarmless q (r.answer limit stamp q).2 →
      (r.answer limit stamp q).1 = r) ∧
    (∀ (r : Registry) qs i stamp q p, qs[i]? = some (stamp, q) →
      (r.answerAll limit qs).2[i]? = some p → IsHarmless q p →
      r.answerAll limit (qs.eraseIdx i) =
        ((r.answerAll limit qs).1, (r.answerAll limit qs).2.eraseIdx i)) ∧
    ∀ n, limit = .ok n → ∀ (r : Registry) stamp q, (r.answer limit stamp q).1 = r ∨
      (r.answer limit stamp q).2.status = 200 ∨ (r.answer limit stamp q).2.status = 201 := by
  refine ⟨fun _ _ _ => answer_fst_of_isHarmless limit,
    fun _ _ _ _ _ _ => answerAll_eraseIdx limit, ?_⟩
  rintro n rfl r stamp q
  rcases r.answer_cases (.ok n) stamp q with hr | ⟨-, -, hok | hok | ⟨⟨e, he⟩, -⟩⟩
  · exact .inl hr
  · exact .inr (.inl hok)
  · exact .inr (.inr hok)
  · cases he

/-- A batch with a label of no key is refused as a whole, and the run is the same without it. -/
theorem atomic_answer_unknown_key :
    let batch (labels : List String) : Stamp × Request := (⟨"", ""⟩,
      ⟨"POST", ⟨"http", "localhost".toList, "api/sessions/a/keys".toList⟩,
        .json (.object [("keys", .strings labels)])⟩)
    let creation : Stamp × Request := (⟨"a", "09:00"⟩,
      ⟨"POST", ⟨"http", "localhost".toList, "api/sessions".toList⟩, .none⟩)
    let qs := [creation, batch ["1", "+"], batch ["2", "x"], batch ["3", "="]]
    (∃ p, (empty.answerAll (.ok 1) qs).2[2]? = some p ∧ p.status = 400) ∧
      empty.answerAll (.ok 1) (qs.eraseIdx 2) =
        ((empty.answerAll (.ok 1) qs).1, (empty.answerAll (.ok 1) qs).2.eraseIdx 2) := by
  intro batch creation qs
  have hstatus : (empty.answerAll (.ok 1) qs).2[2]?.map (·.status) = some 400 := by decide +kernel
  obtain ⟨p, hp, hp400⟩ := Option.map_eq_some_iff.1 hstatus
  have hbatch : qs[2]? = some (batch ["2", "x"]) := rfl
  have hrefused : 400 ≤ p.status ∧ p.status < 500 := by omega
  have hrun := (atomic_answer (.ok 1)).2.1 empty qs 2 _ _ p hbatch hp (Or.inl hrefused)
  exact ⟨⟨p, hp, hp400⟩, hrun⟩

end Registry

end PocketCalculator
