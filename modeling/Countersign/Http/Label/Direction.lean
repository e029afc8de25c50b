import Countersign.Http.Label.Letters

/-!
# Directions of writing

A part of a domain name with letters that are written from right to left must begin with a letter,
hold only what goes with its direction, end in a letter or number, and not mix numbers of two kinds
after a letter that is written from right to left.
-/

namespace Countersign
namespace Label

/-- How a character behaves where directions of writing meet. -/
inductive Direction where
  /-- A letter that is written from left to right. -/
  | left
  /-- A letter that is written from right to left. -/
  | right
  /-- A letter of the Arabic kind, which is written from right to left. -/
  | arabic
  /-- A number. -/
  | number
  /-- A number of the Arabic kind. -/
  | arabicNumber
  /-- A separator in numbers. -/
  | separator
  /-- A sign without a direction. -/
  | neutral
  /-- A character without effect. -/
  | boundary
  /-- A mark, which goes with what it stands on. -/
  | mark
  deriving DecidableEq, Repr

/-- Inclusive ranges of code points with a direction of their own, and of exceptions among the
marks. -/
def directions : List (Nat × Nat × Direction) :=
  [
    (0x2d, 0x2d, .separator), (0x30, 0x39, .number), (0xb7, 0xb7, .neutral),
    (0x2b9, 0x2ba, .neutral), (0x2c6, 0x2cf, .neutral), (0x2ec, 0x2ec, .neutral),
    (0x375, 0x375, .neutral), (0x5d0, 0x5f4, .right), (0x620, 0x64a, .arabic),
    (0x660, 0x669, .arabicNumber), (0x66e, 0x66f, .arabic), (0x671, 0x6d5, .arabic),
    (0x6e5, 0x6e6, .arabic), (0x6ee, 0x6ef, .arabic), (0x6f0, 0x6f9, .number),
    (0x6fa, 0x710, .arabic), (0x712, 0x72f, .arabic), (0x74d, 0x7a5, .arabic),
    (0x7b1, 0x7b1, .arabic), (0x7c0, 0x7ea, .right), (0x7f4, 0x7f5, .right),
    (0x800, 0x815, .right), (0x81a, 0x81a, .right), (0x824, 0x824, .right),
    (0x828, 0x828, .right), (0x840, 0x858, .right), (0x860, 0x88e, .arabic),
    (0x8a0, 0x8c9, .arabic), (0xcbf, 0xcbf, .left), (0xcc6, 0xcc6, .left),
    (0x200c, 0x200d, .boundary), (0x2e2f, 0x2e2f, .neutral), (0x30fb, 0x30fb, .neutral),
    (0xa67f, 0xa67f, .neutral), (0xa717, 0xa71f, .neutral), (0xa788, 0xa788, .neutral),
    (0xfe73, 0xfe73, .arabic), (0x10800, 0x10a00, .right), (0x10a10, 0x10a35, .right),
    (0x10a60, 0x10ae4, .right), (0x10b00, 0x10cf2, .right), (0x10d00, 0x10d23, .arabic),
    (0x10d30, 0x10d39, .arabicNumber), (0x10e80, 0x10ea9, .right), (0x10eb0, 0x10f27, .right),
    (0x10f30, 0x10f45, .arabic), (0x10f70, 0x10f81, .right), (0x10fb0, 0x10ff6, .right),
    (0x11a07, 0x11a08, .left), (0x11c3f, 0x11c3f, .left), (0x1e800, 0x1e8c4, .right),
    (0x1e922, 0x1e943, .right), (0x1e94b, 0x1e959, .right)
  ]

/-- The direction of a character. -/
def direction (char : Char) : Direction :=
  match directions.find? fun range => range.1 ≤ char.toNat && char.toNat ≤ range.2.1 with
  | some range => range.2.2
  | none => if isNarrowMark char then .mark else .left

/-- What is wrong with the directions of a label. -/
inductive DirectionFault where
  /-- The first character is no letter. -/
  | first
  /-- A character may not stand in a label that is written from right to left. -/
  | inRightward (position : Nat)
  /-- A character may not stand in a label that is written from left to right. -/
  | inLeftward (position : Nat)
  /-- Numbers of two kinds are mixed. -/
  | mixedNumbers
  /-- The last character that is no mark is no letter or number. -/
  | last
  deriving DecidableEq, Repr

namespace Direction

/-- Whether a direction calls for the rules on writing from right to left. -/
def isRightward (direction : Direction) : Bool :=
  [right, arabic, arabicNumber].contains direction

/-- Whether a direction is that of numbers. -/
def isNumber (direction : Direction) : Bool :=
  direction = number || direction = arabicNumber

/-- What is wrong from a position on with a label written from right to left, given the kind of
numbers in it so far. -/
def rightwardFault? (position : Nat) (numbers : Option Direction) :
    List Direction → Option DirectionFault
  | [] => none
  | direction :: rest =>
      if direction = left then some (.inRightward position)
      else if !direction.isNumber then rightwardFault? (position + 1) numbers rest
      else if numbers.any (· ≠ direction) then some .mixedNumbers
      else rightwardFault? (position + 1) (some direction) rest

/-- What is wrong from a position on with a label written from left to right. -/
def leftwardFault? (position : Nat) : List Direction → Option DirectionFault
  | [] => none
  | direction :: rest =>
      if direction.isRightward then some (.inLeftward position)
      else leftwardFault? (position + 1) rest

/-- What is wrong with the end of a label, given what it may end in. -/
def endFault? (ends : List Direction) (directions : List Direction) : Option DirectionFault :=
  if (directions.reverse.find? (· ≠ mark)).any ends.contains then none else some .last

end Direction

/-- What is wrong with the directions of a label, if anything. -/
def directionFault? (label : List Char) : Option DirectionFault :=
  let directions := label.map direction
  if !directions.any Direction.isRightward then none
  else
    match directions.head? with
    | some .right | some .arabic =>
        (Direction.rightwardFault? 1 none directions).or
          (Direction.endFault? [.right, .arabic, .number, .arabicNumber] directions)
    | some .left =>
        (Direction.leftwardFault? 1 directions).or
          (Direction.endFault? [.left, .number] directions)
    | _ => some .first

end Label
end Countersign
