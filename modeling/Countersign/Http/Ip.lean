import Countersign.Text.Split

/-!
# Internet addresses

A version 4 address is four decimal numbers below 256 with dots between them.  A version 6 address
is eight hexadecimal numbers of at most four digits with colons between them; a run of zeros may be
left out once, the last two numbers may be written as a version 4 address, and a zone may follow a
percent sign.
-/

namespace Countersign
namespace Ip

/-- Whether a text is a number of a version 4 address, without needless zeros. -/
def isOctet (text : List Char) : Bool :=
  !text.isEmpty && text.all Char.isDigit && text.length ≤ 3 &&
    (text = ['0'] || text.head? ≠ some '0') &&
    text.foldl (fun number digit => number * 10 + (digit.toNat - 0x30)) 0 ≤ 255

/-- Whether a text is a version 4 address. -/
def isVersion4 (text : List Char) : Bool :=
  let parts := Text.split (· = '.') text
  parts.length = 4 && parts.all isOctet

/-- Whether a character is a hexadecimal digit. -/
def isHexDigit (char : Char) : Bool :=
  char.isDigit || ('a' ≤ char && char ≤ 'f') || ('A' ≤ char && char ≤ 'F')

/-- Whether a text is a number of a version 6 address. -/
def isHextet (text : List Char) : Bool :=
  !text.isEmpty && text.all isHexDigit && text.length ≤ 4

/-- The parts of a version 6 address between its colons, the last one as two numbers if it is a
version 4 address. -/
def numbers? (parts : List (List Char)) : Option (List (List Char)) :=
  match parts.getLast? with
  | some last =>
      if !last.contains '.' then some parts
      else if isVersion4 last then some (parts.dropLast ++ [['0'], ['0']])
      else none
  | none => none

/-- The numbers before and after the place at which zeros are left out, if there is one. -/
def sides? (parts : List (List Char)) : Option (List (List Char) × List (List Char)) :=
  let before := parts.takeWhile (!·.isEmpty)
  let after? :=
    match before, parts.drop before.length with
    | [], [] :: [] :: after => some after
    | _ :: _, [] :: after => some after
    | _, _ => none
  match after? with
  | none | some [] => none
  | some [[]] => some (before, [])
  | some after => some (before, after)

/-- Whether a text is a version 6 address without a zone. -/
def isPlainVersion6 (text : List Char) : Bool :=
  match numbers? (Text.split (· = ':') text) with
  | none => false
  | some parts =>
      if parts.all (!·.isEmpty) then parts.length = 8 && parts.all isHextet
      else
        match sides? parts with
        | some (before, after) =>
            (before ++ after).length ≤ 7 && (before ++ after).all isHextet
        | none => false

/-- Whether a text is a version 6 address. -/
def isVersion6 (text : List Char) : Bool :=
  let address := text.takeWhile (· ≠ '%')
  match text.drop address.length with
  | [] => isPlainVersion6 address
  | _ :: zone => !zone.isEmpty && !zone.contains '%' && isPlainVersion6 address

end Ip
end Countersign
