import Countersign.Config.Environment
import Countersign.Proofs.Challenge
import Countersign.Proofs.Config.Keys

/-!
# Clean texts

A clean text has printable characters alone.  Whatever is put in quotes becomes clean.  So are, as
they stand, the printable ASCII texts, and with them the realms that a challenge can name, their
keys, and what these become in upper case.
-/

namespace Countersign
namespace Text

/-- Whether a text has printable characters alone. -/
def IsClean (text : String) : Prop :=
  ∀ char ∈ text.toList, isPrintable char

instance (text : String) : Decidable (IsClean text) :=
  List.decidableBAll _ text.toList

/-- Whether a character is printable ASCII. -/
def IsPlainChar (char : Char) : Prop :=
  0x20 ≤ char.toNat ∧ char.toNat < 0x7f

instance (char : Char) : Decidable (IsPlainChar char) :=
  inferInstanceAs (Decidable (_ ∧ _))

/-- Whether a text has printable ASCII characters alone. -/
def IsPlain (text : String) : Prop :=
  ∀ char ∈ text.toList, IsPlainChar char

instance (text : String) : Decidable (IsPlain text) :=
  List.decidableBAll _ text.toList

theorem isPrintable_of_isPlainChar {char : Char} (plain : IsPlainChar char) : isPrintable char :=
  isPrintable_of_ascii plain.1 plain.2

theorem IsPlain.isClean {text : String} (plain : IsPlain text) : IsClean text :=
  fun char member => isPrintable_of_isPlainChar (plain char member)

theorem IsClean.append {left right : String} (first : IsClean left) (last : IsClean right) :
    IsClean (left ++ right) := by
  rw [IsClean, String.toList_append]
  exact List.forall_mem_append.mpr ⟨first, last⟩

theorem IsPlain.append {left right : String} (first : IsPlain left) (last : IsPlain right) :
    IsPlain (left ++ right) := by
  rw [IsPlain, String.toList_append]
  exact List.forall_mem_append.mpr ⟨first, last⟩

/-! ## Quotes -/

theorem isPlainChar_hexDigit : ∀ value, value < 16 → IsPlainChar (hexDigit value) := by
  decide

theorem isPlainChar_of_mem_hexDigits {width value : Nat} {char : Char}
    (member : char ∈ hexDigits width value) : IsPlainChar char := by
  induction width generalizing value with
  | zero => cases member
  | succ width induction =>
      rw [hexDigits] at member
      rcases List.mem_append.mp member with early | last
      · exact induction early
      · rw [List.mem_singleton.mp last]
        exact isPlainChar_hexDigit _ (Nat.mod_lt value (by decide))

theorem isPlainChar_of_mem_escapePoint {point : Nat} {char : Char}
    (member : char ∈ escapePoint point) : IsPlainChar char := by
  have escaped : ∀ {letter : Char} {width : Nat}, IsPlainChar letter →
      char ∈ backslash :: letter :: hexDigits width point → IsPlainChar char := by
    intro letter width plain member
    rcases List.mem_cons.mp member with rfl | member
    · decide
    · rcases List.mem_cons.mp member with rfl | member
      · exact plain
      · exact isPlainChar_of_mem_hexDigits member
  rw [escapePoint] at member
  split at member
  · exact escaped (by decide) member
  · split at member
    · exact escaped (by decide) member
    · exact escaped (by decide) member

theorem isPlainChar_quoteFor (text : List Char) : IsPlainChar (quoteFor text) := by
  rw [quoteFor]
  split <;> decide

/-- Between quotes every character is written with printable ones. -/
theorem isPrintable_of_mem_quoteChar {quote char written : Char} (plain : IsPlainChar quote)
    (member : written ∈ quoteChar quote char) : isPrintable written := by
  have pair : ∀ {letter : Char}, IsPlainChar letter → written ∈ [backslash, letter] →
      isPrintable written := by
    intro letter plain member
    rcases List.mem_cons.mp member with rfl | member
    · decide
    · rw [List.mem_singleton.mp member]
      exact isPrintable_of_isPlainChar plain
  rw [quoteChar] at member
  split at member
  next marked =>
    rcases marked with rfl | rfl
    · exact pair plain member
    · exact pair (by decide) member
  next =>
    split at member
    · exact pair (by decide) member
    split at member
    · exact pair (by decide) member
    split at member
    · exact pair (by decide) member
    split at member
    next printable => rwa [List.mem_singleton.mp member]
    next => exact isPrintable_of_isPlainChar (isPlainChar_of_mem_escapePoint member)

/-- Quotes make every text clean. -/
theorem isClean_quoted (text : String) : IsClean (quoted text) := by
  intro char member
  have quote := isPlainChar_quoteFor text.toList
  rw [quoted, String.toList_ofList, quoteChars, List.cons_append] at member
  rcases List.mem_cons.mp member with rfl | member
  · exact isPrintable_of_isPlainChar quote
  · rcases List.mem_append.mp member with inside | last
    · obtain ⟨original, -, written⟩ := List.mem_flatMap.mp inside
      exact isPrintable_of_mem_quoteChar quote written
    · rw [List.mem_singleton.mp last]
      exact isPrintable_of_isPlainChar quote

theorem isClean_quotedOrNone (text : Option String) : IsClean (quotedOrNone text) := by
  cases text with
  | none => decide
  | some text => exact isClean_quoted text

/-! ## Upper case -/

theorem isPlainChar_ofNat :
    ∀ point, point < 0x7f → 0x20 ≤ point → IsPlainChar (Char.ofNat point) := by
  decide

theorem isPlainChar_of_mem_uppercaseChar {char upper : Char} (plain : IsPlainChar char)
    (member : upper ∈ uppercaseChar char) : IsPlainChar upper := by
  have ascii : char.toNat < 0x80 := by
    have below := plain.2
    omega
  rw [uppercaseChar, if_pos ascii, List.mem_singleton] at member
  subst member
  split
  next small =>
    rw [Bool.and_eq_true, decide_eq_true_eq, decide_eq_true_eq] at small
    exact isPlainChar_ofNat _ (by omega) (by omega)
  next => exact plain

theorem IsPlain.uppercase {text : String} (plain : IsPlain text) : IsPlain (uppercase text) := by
  intro upper member
  rw [Text.uppercase, String.toList_ofList] at member
  obtain ⟨char, original, written⟩ := List.mem_flatMap.mp member
  exact isPlainChar_of_mem_uppercaseChar (plain char original) written

end Text

namespace Environment

open Countersign.Text (IsClean IsPlain IsPlainChar)

theorem isPlain_underscored {key : String} (plain : IsPlain key) : IsPlain (underscored key) := by
  intro char member
  rw [underscored, String.toList_ofList] at member
  obtain ⟨original, isOriginal, rfl⟩ := List.mem_map.mp member
  split
  next => decide
  next => exact plain original isOriginal

/-- The variable of a printable ASCII key is clean if what it starts with is. -/
theorem isClean_variableName {lead key : String} (clean : IsClean lead) (plain : IsPlain key) :
    IsClean (variableName lead key) :=
  clean.append (isPlain_underscored plain).uppercase.isClean

end Environment

open Countersign.Text (IsPlain IsPlainChar)

theorem Challenge.IsRealm.isPlain {realm : String} (isRealm : IsRealm realm) : IsPlain realm := by
  intro char member
  have bounds : (0x41 ≤ char.toNat ∧ char.toNat ≤ 0x5a) ∨ (0x61 ≤ char.toNat ∧ char.toNat ≤ 0x7a) ∨
      (0x30 ≤ char.toNat ∧ char.toNat ≤ 0x39) ∨ char = '_' := isRealm.2 char member
  rcases bounds with capital | small | digit | rfl
  · exact ⟨by omega, by omega⟩
  · exact ⟨by omega, by omega⟩
  · exact ⟨by omega, by omega⟩
  · decide

theorem Config.isPlain_userKey {realm : String} (plain : IsPlain realm) :
    IsPlain (userKey realm) := by
  have root : IsPlain (keyRoot ++ ".") := by decide
  have ending : IsPlain ".user" := by decide
  exact (root.append plain).append ending

theorem Config.isPlain_passwordKey {realm : String} (plain : IsPlain realm) :
    IsPlain (passwordKey realm) := by
  have root : IsPlain (keyRoot ++ ".") := by decide
  have ending : IsPlain ".password" := by decide
  exact (root.append plain).append ending

end Countersign
