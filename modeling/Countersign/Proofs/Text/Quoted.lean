import Countersign.Text.Quoted
import Mathlib.Algebra.Group.Nat.Defs

/-!
# Reading quoted texts

A reader of quoted texts need not know which characters are printable, nor how the quotes were
chosen.  It takes the first character for the quote, and a backslash for the start of an escape that
its next letter tells the length of, so it knows the quote that ends the text from those in it.
Whatever comes after, it gets back what was quoted.  Hence no two texts are quoted alike, and none
looks like the word for an absent one.
-/

namespace Countersign
namespace Text

/-! ## The reader -/

/-- Whether a character is a quote. -/
def IsQuote (char : Char) : Prop :=
  char = apostrophe ∨ char = doubleQuote

instance (char : Char) : Decidable (IsQuote char) :=
  inferInstanceAs (Decidable (_ ∨ _))

/-- The value of a lower-case hexadecimal digit. -/
def hexValue? (char : Char) : Option Nat :=
  if '0' ≤ char ∧ char ≤ '9' then some (char.toNat - 0x30)
  else if 'a' ≤ char ∧ char ≤ 'f' then some (char.toNat - 0x57)
  else none

/-- What the letter behind a backslash says. -/
inductive Escape where
  /-- The letter stands for a character. -/
  | char (char : Char)
  /-- A code point follows, in one digit and `more` others. -/
  | point (more : Nat)

/-- What a letter behind a backslash says, if it may stand there. -/
def escape? (letter : Char) : Option Escape :=
  if letter = backslash ∨ IsQuote letter then some (.char letter)
  else if letter = 'n' then some (.char '\n')
  else if letter = 'r' then some (.char '\r')
  else if letter = 't' then some (.char '\t')
  else if letter = 'x' then some (.point 1)
  else if letter = 'u' then some (.point 3)
  else if letter = 'U' then some (.point 7)
  else none

/-- Where in a quoted text the reader is. -/
inductive Reading where
  /-- Between two characters. -/
  | between
  /-- Behind a backslash. -/
  | behind
  /-- In a code point of which one digit and `more` others are to come, after digits of a value. -/
  | amid (more value : Nat)

/-- What is read if a character comes before it. -/
def prepend (char : Char) (read : Option (List Char × List Char)) :
    Option (List Char × List Char) :=
  read.map fun (text, rest) => (char :: text, rest)

/-- Reads on to the end of the quoted text; what comes after it is left. -/
def readFrom (quote : Char) : Reading → List Char → Option (List Char × List Char)
  | _, [] => none
  | .between, char :: rest =>
      if char = quote then some ([], rest)
      else if char = backslash then readFrom quote .behind rest
      else prepend char (readFrom quote .between rest)
  | .behind, letter :: rest =>
      match escape? letter with
      | none => none
      | some (.char char) => prepend char (readFrom quote .between rest)
      | some (.point more) => readFrom quote (.amid more 0) rest
  | .amid more value, digit :: rest =>
      match hexValue? digit with
      | none => none
      | some bits =>
          match more with
          | 0 => prepend (Char.ofNat (value * 16 + bits)) (readFrom quote .between rest)
          | more + 1 => readFrom quote (.amid more (value * 16 + bits)) rest

/-- The text that is quoted at the start of a text, and what comes after it. -/
def readQuoted? : List Char → Option (List Char × List Char)
  | [] => none
  | quote :: rest => if IsQuote quote then readFrom quote .between rest else none

/-- The text that is quoted at the start of a text, unless the word for an absent one stands there,
and what comes after it. -/
def readQuotedOrNone? (text : List Char) : Option (Option String × List Char) :=
  match readQuoted? text with
  | some (content, rest) => some (some (String.ofList content), rest)
  | none =>
      match text with
      | 'N' :: 'o' :: 'n' :: 'e' :: rest => some (none, rest)
      | _ => none

/-! ## Escapes -/

section Escapes

variable {quote : Char} {rest : List Char}

theorem hexValue?_hexDigit : ∀ value < 16, hexValue? (hexDigit value) = some value := by
  decide

theorem readFrom_digit {value : Nat} (small : value < 16) (more before : Nat) :
    readFrom quote (.amid (more + 1) before) (hexDigit value :: rest) =
      readFrom quote (.amid more (before * 16 + value)) rest := by
  rw [readFrom, hexValue?_hexDigit value small]

/-- The last digit of a code point completes a character. -/
theorem readFrom_last_digit {value : Nat} (small : value < 16) (before : Nat) :
    readFrom quote (.amid 0 before) (hexDigit value :: rest) =
      prepend (Char.ofNat (before * 16 + value)) (readFrom quote .between rest) := by
  rw [readFrom, hexValue?_hexDigit value small]

/-- Digits are read as the number that they are for, as long as there are more to come. -/
theorem readFrom_hexDigits {width value : Nat} (fits : value < 16 ^ width) (more before : Nat) :
    readFrom quote (.amid (width + more) before) (hexDigits width value ++ rest) =
      readFrom quote (.amid more (before * 16 ^ width + value)) rest := by
  induction width generalizing value more rest with
  | zero =>
      have zero : value = 0 := by omega
      simp [hexDigits, zero]
  | succ width induction =>
      rw [Nat.pow_succ] at fits
      have gathered : (before * 16 ^ width + value / 16) * 16 + value % 16 =
          before * 16 ^ (width + 1) + value := by
        rw [Nat.pow_succ, ← Nat.mul_assoc]
        omega
      rw [hexDigits, List.append_assoc, List.singleton_append, Nat.add_right_comm, Nat.add_assoc,
        induction (by omega), readFrom_digit (by omega), gathered]

theorem readFrom_backslash (isQuote : IsQuote quote) :
    readFrom quote .between (backslash :: rest) = readFrom quote .behind rest := by
  have different : backslash ≠ quote := by
    rcases isQuote with rfl | rfl <;> decide
  rw [readFrom, if_neg different, if_pos rfl]

/-- A letter that stands for a character is read as that. -/
theorem readFrom_letter (isQuote : IsQuote quote) {letter char : Char}
    (stands : escape? letter = some (.char char)) :
    readFrom quote .between ([backslash, letter] ++ rest) =
      prepend char (readFrom quote .between rest) := by
  rw [List.cons_append, List.singleton_append, readFrom_backslash isQuote, readFrom, stands]

/-- Digits that have room for a code point are read as its character. -/
theorem readFrom_point (isQuote : IsQuote quote) {letter char : Char} {width : Nat}
    (announces : escape? letter = some (.point width)) (fits : char.toNat < 16 ^ (width + 1)) :
    readFrom quote .between (backslash :: letter :: hexDigits (width + 1) char.toNat ++ rest) =
      prepend char (readFrom quote .between rest) := by
  have opened (digits : List Char) : readFrom quote .between (backslash :: letter :: digits) =
      readFrom quote (.amid (width + 0) 0) digits := by
    rw [readFrom_backslash isQuote, readFrom, announces, Nat.add_zero]
  rw [Nat.pow_succ] at fits
  rw [List.cons_append, List.cons_append, opened, hexDigits, List.append_assoc,
    List.singleton_append, readFrom_hexDigits (by omega) 0, Nat.zero_mul, Nat.zero_add,
    readFrom_last_digit (by omega), Nat.div_add_mod', Char.ofNat_toNat]

theorem readFrom_escapePoint (isQuote : IsQuote quote) (char : Char) :
    readFrom quote .between (escapePoint char.toNat ++ rest) =
      prepend char (readFrom quote .between rest) := by
  have scalar : char.toNat < 0xd800 ∨ 0xdfff < char.toNat ∧ char.toNat < 0x110000 := char.valid
  rw [escapePoint]
  split
  case isTrue two => exact readFrom_point isQuote rfl two
  split
  case isTrue four => exact readFrom_point isQuote rfl four
  case isFalse => exact readFrom_point isQuote rfl (by omega)

/-- However a character is written between quotes, it is read as itself. -/
theorem readFrom_quoteChar (isQuote : IsQuote quote) (char : Char) :
    readFrom quote .between (quoteChar quote char ++ rest) =
      prepend char (readFrom quote .between rest) := by
  rw [quoteChar]
  split
  case isTrue marked =>
    refine readFrom_letter isQuote (if_pos ?_)
    rcases marked with rfl | rfl
    · exact .inr isQuote
    · exact .inl rfl
  case isFalse unmarked =>
    obtain ⟨not_quote, not_backslash⟩ := not_or.mp unmarked
    split
    case isTrue newline =>
      subst newline
      exact readFrom_letter isQuote rfl
    split
    case isTrue carriageReturn =>
      subst carriageReturn
      exact readFrom_letter isQuote rfl
    split
    case isTrue tab =>
      subst tab
      exact readFrom_letter isQuote rfl
    split
    case isTrue =>
      rw [List.singleton_append, readFrom, if_neg not_quote, if_neg not_backslash]
    case isFalse => exact readFrom_escapePoint isQuote char

end Escapes

/-! ## Quoted texts -/

/-- Between quotes of either kind a text is read as itself, up to the second quote. -/
theorem readFrom_quote {quote : Char} (isQuote : IsQuote quote) (text rest : List Char) :
    readFrom quote .between (text.flatMap (quoteChar quote) ++ quote :: rest) =
      some (text, rest) := by
  induction text with
  | nil => rw [List.flatMap_nil, List.nil_append, readFrom, if_pos rfl]
  | cons char text induction =>
      rw [List.flatMap_cons, List.append_assoc, readFrom_quoteChar isQuote, induction]
      rfl

theorem isQuote_quoteFor (text : List Char) : IsQuote (quoteFor text) := by
  rw [quoteFor]
  split
  · exact .inr rfl
  · exact .inl rfl

/-- A quoted text is read as what was quoted. -/
theorem readQuoted?_quoteChars (text rest : List Char) :
    readQuoted? (quoteChars text ++ rest) = some (text, rest) := by
  rw [quoteChars, List.append_assoc, List.cons_append, readQuoted?,
    if_pos (isQuote_quoteFor text), List.singleton_append,
    readFrom_quote (isQuote_quoteFor text)]

/-- What was quoted is read, and so is that there was nothing to quote. -/
theorem readQuotedOrNone?_quotedOrNone (text : Option String) (rest : List Char) :
    readQuotedOrNone? ((quotedOrNone text).toList ++ rest) = some (text, rest) := by
  cases text with
  | none => simp [readQuotedOrNone?, quotedOrNone, readQuoted?, IsQuote, apostrophe, doubleQuote]
  | some text =>
      simp only [readQuotedOrNone?, quotedOrNone, quoted, String.toList_ofList,
        readQuoted?_quoteChars, String.ofList_toList]

/-- Texts are quoted alike only if they are the same, and none is quoted as an absent one. -/
theorem quotedOrNone_inj {left right : Option String} :
    quotedOrNone left = quotedOrNone right ↔ left = right := by
  refine ⟨fun same => ?_, congrArg quotedOrNone⟩
  have read := readQuotedOrNone?_quotedOrNone left []
  rw [same, readQuotedOrNone?_quotedOrNone, Option.some_inj, Prod.mk.injEq] at read
  exact read.1.symm

theorem quoted_inj {left right : String} : quoted left = quoted right ↔ left = right := by
  have options : quotedOrNone (some left) = quotedOrNone (some right) ↔ some left = some right :=
    quotedOrNone_inj
  rwa [quotedOrNone, quotedOrNone, Option.some_inj] at options

end Text
end Countersign
