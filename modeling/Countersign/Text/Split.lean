/-!
# Splitting texts

A text is split at every separator, so there is one piece more than there are separators, and
pieces may be empty.
-/

namespace Countersign
namespace Text

/-- The pieces of a text between its separators. -/
def split (separates : Char → Bool) : List Char → List (List Char)
  | [] => [[]]
  | char :: rest =>
      if separates char then [] :: split separates rest
      else
        match split separates rest with
        | [] => [[char]]
        | piece :: pieces => (char :: piece) :: pieces

/-- A text whose pieces are separated by one character. -/
def join (separator : Char) : List (List Char) → List Char
  | [] => []
  | [piece] => piece
  | piece :: pieces => piece ++ separator :: join separator pieces

end Text
end Countersign
