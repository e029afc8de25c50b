import Countersign.Proofs.Text.Clean

/-!
# Which realms share their variables

The variables of a realm have its name in capitals between a fixed beginning and a fixed ending, so
two realms have the same variables exactly if they are the same up to the case of ASCII letters.
-/

namespace Countersign

namespace Ascii

theorem toNat_toUpper (char : Char) :
    char.toUpper.toNat =
      if 0x61 ≤ char.toNat ∧ char.toNat ≤ 0x7a then char.toNat - 0x20 else char.toNat := by
  unfold Char.toUpper
  split
  case isTrue small =>
    have bounds : 0x61 ≤ char.toNat ∧ char.toNat ≤ 0x7a := small
    rw [if_pos bounds, Char.toNat_mk, UInt32.toNat_add]
    change (char.toNat + 4294967264) % 4294967296 = _
    omega
  case isFalse other =>
    have bounds : ¬(0x61 ≤ char.toNat ∧ char.toNat ≤ 0x7a) := other
    rw [if_neg bounds]

theorem sameLetter_iff_toUpper {left right : Char} :
    SameLetter left right ↔ left.toUpper = right.toUpper := by
  rw [SameLetter, isCapitalOf_iff, isCapitalOf_iff, ← Char.toNat_inj, ← Char.toNat_inj,
    toNat_toUpper, toNat_toUpper]
  split <;> split <;> omega

/-- Texts are the same up to the case of ASCII letters if they are the same in capitals. -/
theorem sameLetters_iff_toUpper {left right : String} :
    SameLetters left.toList right.toList ↔ left.toUpper = right.toUpper := by
  rw [← String.toList_inj, String.toUpper, String.toUpper, String.toList_map, String.toList_map,
    ← List.forall₂_eq_eq_eq, List.forall₂_map_left_iff, List.forall₂_map_right_iff]
  exact ⟨List.Forall₂.imp fun _ _ => sameLetter_iff_toUpper.mp,
    List.Forall₂.imp fun _ _ => sameLetter_iff_toUpper.mpr⟩

end Ascii

namespace Text

theorem uppercaseChar_of_ascii {char : Char} (ascii : char.toNat < 0x80) :
    uppercaseChar char = [char.toUpper] := by
  rw [uppercaseChar, if_pos ascii, List.singleton_inj, ← Char.ofNat_toNat char.toUpper,
    Ascii.toNat_toUpper]
  simp only [Bool.and_eq_true, decide_eq_true_eq]
  split
  · rfl
  · rw [Char.ofNat_toNat]

theorem uppercase_of_ascii {text : String} (ascii : ∀ char ∈ text.toList, char.toNat < 0x80) :
    uppercase text = text.toUpper := by
  have each : text.toList.flatMap uppercaseChar = text.toList.flatMap fun char => [char.toUpper] :=
    List.flatMap_congr fun char member => uppercaseChar_of_ascii (ascii char member)
  rw [← String.toList_inj, uppercase, String.toList_ofList, each, String.toUpper,
    String.toList_map, List.map_eq_flatMap]

theorem uppercase_append (left right : String) :
    uppercase (left ++ right) = uppercase left ++ uppercase right := by
  simp [uppercase]

end Text

namespace Environment

open Countersign.Config (userKey passwordKey)
open Countersign.Challenge (IsRealm)

theorem underscored_append (left right : String) :
    underscored (left ++ right) = underscored left ++ underscored right := by
  simp [underscored]

variable {realm other : String}

/-- There are no dots and dashes in a realm. -/
theorem underscored_of_isRealm (isRealm : IsRealm realm) : underscored realm = realm := by
  have kept : realm.toList.map (fun char => if char = '.' ∨ char = '-' then '_' else char) =
      realm.toList.map id := by
    refine List.map_congr_left fun char member => if_neg ?_
    have letter := isRealm.2 char member
    rintro (rfl | rfl)
    · revert letter
      decide
    · revert letter
      decide
  rw [underscored, kept, List.map_id, String.ofList_toList]

/-- A variable of a realm is named by the realm in capitals between a beginning and an ending. -/
theorem variableName_of_isRealm (isRealm : IsRealm realm) (lead ending : String) :
    variableName lead (Config.keyRoot ++ "." ++ realm ++ ending) =
      lead ++ ("HTTP_AUTH_BASIC_" ++ realm.toUpper ++ Text.uppercase (underscored ending)) := by
  have beginning : Text.uppercase (underscored (Config.keyRoot ++ ".")) = "HTTP_AUTH_BASIC_" := by
    decide +kernel
  have ascii : ∀ char ∈ realm.toList, char.toNat < 0x80 := by
    intro char member
    have below := (isRealm.isPlain char member).2
    omega
  rw [variableName, underscored_append, underscored_append, Text.uppercase_append,
    Text.uppercase_append, beginning, underscored_of_isRealm isRealm,
    Text.uppercase_of_ascii ascii]

/-- Realms have the same variable if they are spelled with the same letters. -/
theorem variableName_inj (isRealm : IsRealm realm) (isOther : IsRealm other)
    (lead ending : String) :
    variableName lead (Config.keyRoot ++ "." ++ realm ++ ending) =
        variableName lead (Config.keyRoot ++ "." ++ other ++ ending) ↔
      Ascii.SameLetters realm.toList other.toList := by
  rw [variableName_of_isRealm isRealm, variableName_of_isRealm isOther,
    Ascii.sameLetters_iff_toUpper]
  simp only [String.append_right_inj, String.append_left_inj]

end Environment
end Countersign
