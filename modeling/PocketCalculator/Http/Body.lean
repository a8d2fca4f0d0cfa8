import PocketCalculator.Json.Reader
import PocketCalculator.Text.Blank

/-!
# Request bodies

A body counts as JSON if its media type says so. JSON text may come in any of the Unicode encodings;
which one shows in the zero bytes among the first four.
-/

namespace PocketCalculator

/-! ## Encodings -/

inductive ByteOrder where
  | big
  | little

def ByteOrder.pair : ByteOrder → UInt8 → UInt8 → Nat
  | .big, a, b => a.toNat * 256 + b.toNat
  | .little, a, b => b.toNat * 256 + a.toNat

/-- The 16-bit units of a body; none if a byte is left over. -/
def units16? (order : ByteOrder) : List UInt8 → Option (List Nat)
  | [] => some []
  | a :: b :: r => (units16? order r).map (order.pair a b :: ·)
  | [_] => none

/-- The 32-bit units of a body; none if bytes are left over or a unit is no code point. -/
def units32? (order : ByteOrder) : List UInt8 → Option (List Nat)
  | [] => some []
  | a :: b :: c :: d :: r =>
    let n := match order with
      | .big => order.pair a b * 65536 + order.pair c d
      | .little => order.pair c d * 65536 + order.pair a b
    if n < 0x110000 then (units32? order r).map (n :: ·) else none
  | _ => none

/-- The characters of a body that was sent as UTF-8 text. Zero bytes at the front mean that the
bytes are to be read as UTF-16 or UTF-32; a byte order mark is left out. -/
def bodyChars? (text : String) : Option (List Char) :=
  let wide (units : Option (List Nat)) := units.map Json.joinSurrogates
  let bytes := text.toUTF8.toList
  match bytes with
  | 0 :: 0 :: _ :: _ :: _ => wide (units32? .big bytes)
  | 0 :: _ :: _ :: _ :: _ => wide (units16? .big bytes)
  | _ :: 0 :: 0 :: 0 :: _ => wide (units32? .little bytes)
  | _ :: 0 :: _ :: _ :: _ => wide (units16? .little bytes)
  | [0, _] => wide (units16? .big bytes)
  | [_, 0] => wide (units16? .little bytes)
  | _ =>
    match text.toList with
    | '\uFEFF' :: r => some r
    | cs => some cs

/-! ## Media types -/

def isSpaceOrTab (c : Char) : Bool := c = ' ' || c = '\t'

/-- The media type without its parameters and the space around it, in lower case. -/
def mediaType (contentType : String) : List Char :=
  (trimEnds isSpaceOrTab (contentType.toList.takeWhile (· ≠ ';'))).map Char.toLower

/-- JSON itself, and the formats that are written in JSON. -/
def isJsonType (contentType : String) : Bool :=
  let t := mediaType contentType
  t == "application/json".toList ||
    ("application/".toList.isPrefixOf t && "+json".toList.isSuffixOf t)

inductive Body where
  | none
  | text (contentType : Option String) (text : String)
  | json (v : Json)

/-- The content type that a client gives; empty if it gives none. -/
def Body.contentType : Body → String
  | .text (some t) _ => t
  | _ => ""

/-- The JSON value of a body, if it has one that can be read. -/
def Body.json? : Body → Option Json
  | .none => Option.none
  | .json v => some v
  | .text Option.none _ => Option.none
  | .text (some t) s => if isJsonType t then (bodyChars? s).bind Json.read? else Option.none

end PocketCalculator
