import Countersign.Text.Blank
import Countersign.Text.Quoted

/-!
# Files of variables

A file of variables binds names to values, one to a line.  A line may be empty or a comment, a
binding may follow the word `export`, and a name alone is bound to nothing.  Values are bare, or
in quotes in which a backslash introduces what cannot be written plainly.  What is not a binding
is passed over up to the end of its line, and so is a byte order mark at the start of the file.
-/

namespace Countersign
namespace Dotenv

open Text

/-- A name and the value it is bound to, if any. -/
abbrev Binding := String × Option String

/-- The text after a byte order mark, if one stands there. -/
def skipMark : List Char → List Char
  | [] => []
  | char :: rest => if char = '\ufeff' then rest else char :: rest

/-- A text in which every line ends in a line feed alone. -/
def normalizeLines : List Char → List Char
  | [] => []
  | '\r' :: '\n' :: rest => '\n' :: normalizeLines rest
  | '\r' :: rest => '\n' :: normalizeLines rest
  | char :: rest => char :: normalizeLines rest

/-- Whether a character is white space within a line. -/
def isGap (char : Char) : Bool :=
  isBlank char && char ≠ '\n'

/-- Whether a character may stand in a bare name. -/
def isNameChar (char : Char) : Bool :=
  char ≠ '=' && char ≠ '#' && !isBlank char

/-- The text after white space within a line. -/
def skipGap (text : List Char) : List Char :=
  text.dropWhile isGap

/-- The text after the end of its first line. -/
def skipLine (text : List Char) : List Char :=
  (text.dropWhile (· ≠ '\n')).drop 1

/-- The text after the word `export` and the white space that must follow it, if they stand there.
-/
def skipExport (text : List Char) : List Char :=
  match ['e', 'x', 'p', 'o', 'r', 't'].isPrefixOf? text with
  | some (char :: rest) => if isGap char then skipGap rest else text
  | _ => text

/-- The content of quotes and the text after them, from after the opening quote.  A backslash takes
the next character along, so that a quote after it does not close. -/
def closeQuote? (quote : Char) : List Char → Option (List Char × List Char)
  | [] => none
  | [char] => if char = quote then some ([], []) else none
  | char :: next :: rest =>
      if char = quote then some ([], next :: rest)
      else if char = backslash then
        (closeQuote? quote rest).map fun (content, after) => (char :: next :: content, after)
      else (closeQuote? quote (next :: rest)).map fun (content, after) => (char :: content, after)

/-- A text with its escapes replaced, given what a character means after a backslash. -/
def unescape (meaning : Char → Option Char) : List Char → List Char
  | [] => []
  | [char] => [char]
  | char :: next :: rest =>
      match if char = backslash then meaning next else none with
      | some meant => meant :: unescape meaning rest
      | none => char :: unescape meaning (next :: rest)

/-- What a character means after a backslash between apostrophes. -/
def plainMeaning (char : Char) : Option Char :=
  if char = backslash ∨ char = apostrophe then some char else none

/-- What a character means after a backslash between double quotes. -/
def richMeaning (char : Char) : Option Char :=
  if char = backslash ∨ char = apostrophe ∨ char = doubleQuote then some char
  else
    match char with
    | 'a' => some '\x07'
    | 'b' => some '\x08'
    | 'f' => some '\x0c'
    | 'n' => some '\n'
    | 'r' => some '\r'
    | 't' => some '\t'
    | 'v' => some '\x0b'
    | _ => none

/-- A line up to the white space before a comment. -/
def cutComment : List Char → List Char
  | [] => []
  | [char] => [char]
  | char :: next :: rest =>
      if isBlank char ∧ next = '#' then [] else char :: cutComment (next :: rest)

/-- The value that a line holds without quotes. -/
def bareValue (line : List Char) : List Char :=
  trimEnd (skipGap (cutComment line))

/-- The value at the start of a text and the text after it, or `none` if a quote does not close.
-/
def value? (text : List Char) : Option (List Char × List Char) :=
  match skipGap text with
  | [] => some ([], [])
  | char :: rest =>
      if char = apostrophe then
        (closeQuote? char rest).map fun (content, after) => (unescape plainMeaning content, after)
      else if char = doubleQuote then
        (closeQuote? char rest).map fun (content, after) => (unescape richMeaning content, after)
      else
        let line := text.takeWhile (· ≠ '\n')
        some (bareValue line, text.drop line.length)

/-- The name at the start of a text and the text after it.  A comment has no name, and the result
is `none` where neither a name nor a comment stands. -/
def name? (text : List Char) : Option (Option (List Char) × List Char) :=
  match text with
  | [] => none
  | char :: rest =>
      if char = '#' then some (none, text)
      else if char = apostrophe then
        let name := rest.takeWhile (· ≠ apostrophe)
        match rest.drop name.length with
        | _ :: after => if name.isEmpty then none else some (some name, after)
        | [] => none
      else
        let name := text.takeWhile isNameChar
        if name.isEmpty then none else some (some name, text.drop name.length)

/-- The text after the end of a line on which nothing but a comment is left. -/
def endLine? (text : List Char) : Option (List Char) :=
  let rest := skipGap text
  let rest := if rest.head? = some '#' then rest.dropWhile (· ≠ '\n') else rest
  match rest with
  | [] => some []
  | char :: after => if char = '\n' then some after else none

/-- Finishes a line from the text after its binding. -/
def finish (binding : Option Binding) (text : List Char) : Option Binding × List Char :=
  match endLine? text with
  | some rest => (binding, rest)
  | none => (none, skipLine text)

/-- The binding of a name, from the text after the name. -/
def bind (name : Option (List Char)) (text : List Char) : Option Binding × List Char :=
  match skipGap text with
  | '=' :: after =>
      match value? after with
      | some (value, rest) =>
          finish (name.map fun name => (String.ofList name, some (String.ofList value))) rest
      | none => (none, skipLine after)
  | rest => finish (name.map fun name => (String.ofList name, none)) rest

/-- The binding at the start of a text that does not start with white space, and the text after
it. -/
def readBinding (text : List Char) : Option Binding × List Char :=
  match name? (skipExport text) with
  | some (name, rest) => bind name rest
  | none => (none, skipLine (skipExport text))

/-- At most the given number of lines of a text, as bindings. -/
def readBindings : Nat → List Char → List Binding
  | 0, _ => []
  | count + 1, text =>
      match text.dropWhile isBlank with
      | [] => []
      | start =>
          let read := readBinding start
          read.1.toList ++ readBindings count read.2

/-- The bindings of a file, in order; a file has no more lines than characters. -/
def parse (text : List Char) : List Binding :=
  readBindings text.length (normalizeLines (skipMark text))

end Dotenv
end Countersign
