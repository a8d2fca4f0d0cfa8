import PocketCalculator.Http.Body
import PocketCalculator.Http.Target
import PocketCalculator.Text.Uppercase

/-!
# Requests

A request has a method, a destination and a body. It cannot be made for a target that has no proper
authority, nor with a line break in its content type.
-/

namespace PocketCalculator

inductive Method where
  | get
  | head
  | post
  | delete
  | options
  | other
deriving DecidableEq, Repr

/-- Letter case does not count. -/
def Method.ofName (s : String) : Method :=
  match upperCase s with
  | "GET" => .get
  | "HEAD" => .head
  | "POST" => .post
  | "DELETE" => .delete
  | "OPTIONS" => .options
  | _ => .other

structure Request where
  methodName : String
  destination : Destination
  body : Body

/-- Why a request cannot be made. -/
inductive RequestError where
  | target (e : AuthorityError)
  | lineBreakInHeader
deriving DecidableEq, Repr

def RequestError.message : RequestError → String
  | .target e => e.message
  | .lineBreakInHeader => "Header values must not contain newline characters."

namespace Request

/-- The target is looked at before the body. -/
def make (methodName target : String) (body : Body) : Except RequestError Request := do
  let destination ← (Destination.ofTarget target).mapError .target
  if body.contentType.toList.any fun c => c = '\n' || c = '\r' then .error .lineBreakInHeader
  else .ok ⟨methodName, destination, body⟩

def method (q : Request) : Method := .ofName q.methodName

/-- Only a method that is spelled `HEAD` keeps the body of the response back. -/
def asksForHeadOnly (q : Request) : Bool := q.methodName = "HEAD"

end Request

end PocketCalculator
