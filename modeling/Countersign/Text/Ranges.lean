/-!
# Ranges and runs of code points

A character property is a list of inclusive ranges of code points, and a character map is a list of
runs: code points at a fixed distance from each other whose images are shifted by one displacement.
-/

namespace Countersign
namespace Text

/-- Whether the code point of a character lies in one of the inclusive ranges. -/
def inRanges (ranges : List (Nat × Nat)) (char : Char) : Bool :=
  ranges.any fun range => range.1 ≤ char.toNat && char.toNat ≤ range.2

/-- Evenly spaced code points that a character map moves by the same displacement. -/
structure Run where
  /-- First code point that the run moves. -/
  first : Nat
  /-- Last code point that the run moves. -/
  last : Nat
  /-- Distance between two code points of the run. -/
  stride : Nat
  /-- Image of the first code point. -/
  image : Nat

namespace Run

/-- Whether the run moves a code point. -/
def covers (run : Run) (point : Nat) : Bool :=
  run.first ≤ point && point ≤ run.last && (point - run.first) % run.stride == 0

/-- Image of a code point that the run moves. -/
def apply (run : Run) (point : Nat) : Nat :=
  run.image + (point - run.first)

end Run

/-- The image of a character under the first run that moves it, or the character itself. -/
def mapRuns (runs : List Run) (char : Char) : Char :=
  match runs.find? fun run => run.covers char.toNat with
  | some run => Char.ofNat (run.apply char.toNat)
  | none => char

end Text
end Countersign
