/-!
# JSON values

Whole numbers of any size are kept apart from numbers with a fraction or an exponent, and the
members of an object keep their order.
-/

namespace PocketCalculator

inductive Json where
  | null
  | bool (b : Bool)
  | integer (n : Int)
  | number (x : Float)
  | string (s : String)
  | array (items : List Json)
  | object (members : List (String × Json))

namespace Json

def isNull : Json → Bool
  | .null => true
  | _ => false

/-- Replaces the value of a name where the name stands, or adds a member at the end. -/
def putMember (ms : List (String × Json)) (name : String) (v : Json) : List (String × Json) :=
  match ms with
  | [] => [(name, v)]
  | (n, w) :: r => if n = name then (n, v) :: r else (n, w) :: putMember r name v

def member? (ms : List (String × Json)) (name : String) : Option Json :=
  (ms.find? (·.1 = name)).map (·.2)

theorem member?_putMember (ms : List (String × Json)) (name : String) (v : Json) :
    member? (putMember ms name v) name = some v := by
  induction ms with
  | nil => simp [putMember, member?]
  | cons m r ih =>
    obtain ⟨n, w⟩ := m
    by_cases h : n = name
    · simp [putMember, member?, h]
    · simpa [putMember, member?, h] using ih

def strings (ss : List String) : Json := .array (ss.map .string)

end Json

end PocketCalculator
