/-!
# Lines

A line ends at a line feed; a carriage return right in front of it belongs to the line's end. Any
other character, a carriage return elsewhere included, is part of its line.
-/

namespace PocketCalculator

/-- The lines of a text; nothing follows a line's end at the end of the text. -/
def splitLines : List Char → List (List Char)
  | [] => []
  | '\r' :: '\n' :: r => [] :: splitLines r
  | '\n' :: r => [] :: splitLines r
  | c :: r =>
    match splitLines r with
    | [] => [[c]]
    | s :: ss => (c :: s) :: ss

def textLines (s : String) : List String := (splitLines s.toList).map String.ofList

end PocketCalculator
