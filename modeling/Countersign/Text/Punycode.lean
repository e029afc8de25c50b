/-!
# Punycode

A text is written as its ASCII characters followed by an account of where the others are put in.
The others are put in by increasing code point and from left to right, and the account gives the
distance from one to the next in a scale whose digits have limits that adapt to the distances so
far.
-/

namespace Countersign
namespace Punycode

/-- The digit with a value below 36. -/
def digit (value : Nat) : Char :=
  if value < 26 then Char.ofNat (0x61 + value) else Char.ofNat (0x30 + (value - 26))

/-- The value of a digit. -/
def digitValue? (char : Char) : Option Nat :=
  if char.isLower then some (char.toNat - 0x61)
  else if char.isUpper then some (char.toNat - 0x41)
  else if char.isDigit then some (char.toNat - 0x30 + 26)
  else none

/-- The least digit that is not the last one of a distance, at a place in it. -/
def threshold (place bias : Nat) : Nat :=
  if place ≤ bias then 1 else if bias + 26 ≤ place then 26 else place - bias

theorem threshold_bounds (place bias : Nat) :
    1 ≤ threshold place bias ∧ threshold place bias ≤ 26 := by
  unfold threshold
  split
  · omega
  · split <;> omega

/-- The bias that a scaled distance calls for, on top of a given one. -/
def settle (distance bias : Nat) : Nat :=
  if 455 < distance then settle (distance / 35) (bias + 36)
  else bias + 36 * distance / (distance + 38)
termination_by distance
decreasing_by exact Nat.div_lt_self (by omega) (by omega)

/-- The bias after a distance, given how many characters there are by then. -/
def adapt (distance count : Nat) (isFirst : Bool) : Nat :=
  let scaled := if isFirst then distance / 700 else distance / 2
  settle (scaled + scaled / count) 0

/-- A distance from a place on, least digit first. -/
def distanceDigits (bias place distance : Nat) : List Char :=
  let limit := threshold place bias
  if distance < limit then [digit distance]
  else
    digit (limit + (distance - limit) % (36 - limit)) ::
      distanceDigits bias (place + 36) ((distance - limit) / (36 - limit))
termination_by distance
decreasing_by
  have bounds := threshold_bounds place bias
  calc (distance - threshold place bias) / (36 - threshold place bias)
      ≤ distance - threshold place bias := Nat.div_le_self _ _
    _ < distance := by omega

/-- The account of a text in progress. -/
structure Writer where
  /-- Distance since the last character that was put in. -/
  distance : Nat
  /-- Bias for the next distance. -/
  bias : Nat
  /-- Number of characters in the text by now. -/
  count : Nat
  /-- Whether no character has been put in. -/
  isFirst : Bool
  /-- Digits so far. -/
  digits : List Char

namespace Writer

/-- Passes a character on the way through a text that puts one code point in. -/
def pass (point : Nat) (writer : Writer) (char : Char) : Writer :=
  if char.toNat < point then { writer with distance := writer.distance + 1 }
  else if char.toNat = point then
    { distance := 0
      bias := adapt writer.distance (writer.count + 1) writer.isFirst
      count := writer.count + 1
      isFirst := false
      digits := writer.digits ++ distanceDigits writer.bias 36 writer.distance }
  else writer

/-- Goes through a text for each of the given code points, from the one after `previous` on. -/
def passAll (text : List Char) : Nat → List Nat → Writer → Writer
  | _, [], writer => writer
  | previous, point :: points, writer =>
      let start :=
        { writer with distance := writer.distance + (point - previous) * (writer.count + 1) }
      let final := text.foldl (pass point) start
      passAll text (point + 1) points { final with distance := final.distance + 1 }

end Writer

/-- The ASCII characters of a text. -/
def basic (text : List Char) : List Char :=
  text.filter (·.toNat < 0x80)

/-- The code points of the other characters of a text, in increasing order. -/
def extraPoints (text : List Char) : List Nat :=
  (((text.filter (0x80 ≤ ·.toNat)).map Char.toNat).mergeSort).eraseDups

/-- The Punycode of a text. -/
def encode (text : List Char) : List Char :=
  let start :=
    { distance := 0, bias := 72, count := (basic text).length, isFirst := true, digits := [] }
  (if (basic text).isEmpty then [] else basic text ++ ['-']) ++
    (Writer.passAll text 0x80 (extraPoints text) start).digits

/-- The distance at the start of some digits, from a place on, and how many digits it takes. -/
def readDistance? (bias place weight : Nat) : List Char → Option (Nat × Nat)
  | [] => none
  | char :: rest => do
      let value ← digitValue? char
      let limit := threshold place bias
      if value < limit then some (value * weight, 1)
      else
        let (distance, length) ← readDistance? bias (place + 36) (weight * (36 - limit)) rest
        some (value * weight + distance, length + 1)

/-- Whether a number is the code point of a character. -/
def isPoint (point : Nat) : Bool :=
  point < 0xd800 || (0xdfff < point && point < 0x110000)

/-- Puts characters into a text as some digits tell, at most the given number of them. -/
def insertAll? : Nat → (bias point position : Nat) → (isFirst : Bool) → List Char → List Char →
    Option (List Char)
  | _, _, _, _, _, text, [] => some text
  | 0, _, _, _, _, _, _ :: _ => none
  | count + 1, bias, point, position, isFirst, text, digits => do
      let (distance, length) ← readDistance? bias 36 1 digits
      let size := text.length + 1
      let place := position + distance
      let point := point + place / size
      if isPoint point then
        insertAll? count (adapt distance size isFirst) point (place % size + 1) false
          (text.insertIdx (place % size) (Char.ofNat point)) (digits.drop length)
      else none

/-- The text of a Punycode, which puts in no more characters than it has digits. -/
def decode? (code : List Char) : Option (List Char) :=
  let digits := (code.reverse.takeWhile (· ≠ '-')).reverse
  let text := code.take (code.length - digits.length - 1)
  insertAll? digits.length 72 0x80 0 true text digits

end Punycode
end Countersign
