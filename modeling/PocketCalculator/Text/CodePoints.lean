import PocketCalculator.Text.Blank
import PocketCalculator.Text.Hexadecimal
import PocketCalculator.Text.Separated

/-!
# Tables over code points

Properties of characters are given for runs of code points. What a run of characters stands for is
given by a rule if it goes up with the code points, and by a list otherwise.
-/

namespace PocketCalculator

/-- Whether a character is in one of the runs, which are given by their first and last members. -/
def inRuns (runs : List (Nat × Nat)) (c : Char) : Bool :=
  runs.any fun (lo, hi) => lo ≤ c.toNat && c.toNat ≤ hi

/-- Rows `(first, last, step, image)`: from `first` to `last` every `step`th character has an image,
and the images follow each other like the characters, beginning with `image`. -/
def shiftedImage? (rows : List (Nat × Nat × Nat × Nat)) (c : Char) : Option Char :=
  (rows.find? fun (lo, hi, k, _) =>
      lo ≤ c.toNat && c.toNat ≤ hi && (c.toNat - lo) % k = 0).map
    fun (lo, _, _, image) => Char.ofNat (image + (c.toNat - lo))

/-- The images of the characters from `first` on, as far as they have one. -/
structure Listing where
  first : Nat
  images : List (Option (List Char))

namespace Listing

def image? (l : Listing) (c : Char) : Option (List Char) :=
  if l.first ≤ c.toNat then (l.images[c.toNat - l.first]?).join else none

/-- The characters with an image, each with its image. -/
def entries (l : Listing) : List (Char × List Char) :=
  l.images.zipIdx.filterMap fun (image, i) => image.map (Char.ofNat (l.first + i), ·)

/-- Reads a row such as `A8 20.308 - 61`: the first character, then the images in order. A hyphen
stands where there is none, and points separate the characters of an image. -/
def ofRow? (row : List Char) : Option Listing :=
  match words row with
  | [] => none
  | first :: images =>
    some ⟨hexNumber first, images.map fun image =>
      if image = ['-'] then none
      else some ((pieces (· = '.') image).map fun n => Char.ofNat (hexNumber n))⟩

/-- Reads lines of rows that are separated by semicolons. -/
def ofLines (lines : List String) : List Listing :=
  lines.flatMap fun l => (pieces (· = ';') l.toList).filterMap ofRow?

end Listing

def listedImage? (listings : List Listing) (c : Char) : Option (List Char) :=
  listings.findSome? (·.image? c)

end PocketCalculator
