import Countersign.Text.Hex
import Countersign.Text.Printable

/-!
# Quoted texts

A quoted text stands between two equal quotes, apostrophes unless the text has apostrophes and no
double quotes.  A backslash introduces every character that is not written as itself: the quote, the
backslash, and the characters that are not printable.
-/

namespace Countersign
namespace Text

/-- The apostrophe. -/
def apostrophe : Char := '\x27'

/-- The double quote. -/
def doubleQuote : Char := '\x22'

/-- The backslash. -/
def backslash : Char := '\x5c'

/-- The quote that a text is put in. -/
def quoteFor (text : List Char) : Char :=
  if text.contains apostrophe && !text.contains doubleQuote then doubleQuote else apostrophe

/-- The escape of a character by its code point, in two, four or eight digits. -/
def escapePoint (point : Nat) : List Char :=
  if point < 0x100 then backslash :: 'x' :: hexDigits 2 point
  else if point < 0x10000 then backslash :: 'u' :: hexDigits 4 point
  else backslash :: 'U' :: hexDigits 8 point

/-- How code points that cannot be written are named in a refusal: one by its number, several by
their place. -/
def refusedPlace (point position width : Nat) : String :=
  if width ≤ 1 then
    "character '" ++ String.ofList (escapePoint point) ++ "' in position " ++ toString position
  else "characters in position " ++ toString position ++ "-" ++ toString (position + width - 1)

/-- A character as it is written between the given quotes. -/
def quoteChar (quote char : Char) : List Char :=
  if char = quote ∨ char = backslash then [backslash, char]
  else if char = '\n' then [backslash, 'n']
  else if char = '\r' then [backslash, 'r']
  else if char = '\t' then [backslash, 't']
  else if isPrintable char then [char]
  else escapePoint char.toNat

/-- The characters of a text in quotes. -/
def quoteChars (text : List Char) : List Char :=
  quoteFor text :: text.flatMap (quoteChar (quoteFor text)) ++ [quoteFor text]

/-- A text in quotes. -/
def quoted (text : String) : String :=
  String.ofList (quoteChars text.toList)

/-- A text in quotes, or the word for an absent one. -/
def quotedOrNone : Option String → String
  | some text => quoted text
  | none => "None"

end Text
end Countersign
