import Countersign.Challenge
import Mathlib.Data.List.Forall2

/-!
# The grammar of Basic challenges

A challenge for a realm is the opening in any case of its ASCII letters, the realm, and a double
quote, and nothing else is one.  Parsing accepts the challenges for words and gives their realms.
-/

namespace Countersign

namespace Ascii

/-- Whether the first of two characters is a capital ASCII letter and the second the small one. -/
def IsCapitalOf (upper lower : Char) : Prop :=
  'A' ≤ upper ∧ upper ≤ 'Z' ∧ lower.toNat = upper.toNat + 0x20

/-- Whether two characters are the same up to the case of ASCII letters. -/
def SameLetter (left right : Char) : Prop :=
  left = right ∨ IsCapitalOf left right ∨ IsCapitalOf right left

/-- Whether two texts are the same up to the case of ASCII letters. -/
def SameLetters (left right : List Char) : Prop :=
  List.Forall₂ SameLetter left right

theorem toNat_toLower (char : Char) :
    char.toLower.toNat =
      if 0x41 ≤ char.toNat ∧ char.toNat ≤ 0x5a then char.toNat + 0x20 else char.toNat := by
  unfold Char.toLower
  split
  case isTrue capital =>
    have bounds : 0x41 ≤ char.toNat ∧ char.toNat ≤ 0x5a := capital
    rw [if_pos bounds, Char.toNat_mk, UInt32.toNat_add]
    change (char.toNat + 32) % 4294967296 = _
    omega
  case isFalse other =>
    have bounds : ¬(0x41 ≤ char.toNat ∧ char.toNat ≤ 0x5a) := other
    rw [if_neg bounds]

theorem isCapitalOf_iff {upper lower : Char} :
    IsCapitalOf upper lower ↔
      0x41 ≤ upper.toNat ∧ upper.toNat ≤ 0x5a ∧ lower.toNat = upper.toNat + 0x20 := Iff.rfl

/-- There are no letters below the capitals. -/
theorem SameLetter.eq {left right : Char} (same : SameLetter left right)
    (low : right.toNat < 0x41) : left = right := by
  rw [SameLetter, isCapitalOf_iff, isCapitalOf_iff] at same
  rcases same with equal | capital | capital
  · exact equal
  · omega
  · omega

theorem sameLetter_iff {left right : Char} :
    SameLetter left right ↔ left.toLower = right.toLower := by
  rw [SameLetter, isCapitalOf_iff, isCapitalOf_iff, ← Char.toNat_inj, ← Char.toNat_inj,
    toNat_toLower, toNat_toLower]
  split <;> split <;> omega

theorem sameLetters_iff {left right : List Char} :
    SameLetters left right ↔ left.map Char.toLower = right.map Char.toLower := by
  rw [← List.forall₂_eq_eq_eq, List.forall₂_map_left_iff, List.forall₂_map_right_iff]
  exact ⟨List.Forall₂.imp fun _ _ => sameLetter_iff.mp,
    List.Forall₂.imp fun _ _ => sameLetter_iff.mpr⟩

end Ascii

namespace Challenge

/-- Whether a realm can be named in a challenge. -/
def IsRealm (realm : String) : Prop :=
  realm ≠ "" ∧ ∀ char ∈ realm.toList,
    ('A' ≤ char ∧ char ≤ 'Z') ∨ ('a' ≤ char ∧ char ≤ 'z') ∨ ('0' ≤ char ∧ char ≤ '9') ∨ char = '_'

/-- Whether a text is a challenge for a realm. -/
def IsFor (realm text : String) : Prop :=
  IsRealm realm ∧ ∃ head, Ascii.SameLetters head "basic realm=\"".toList ∧
    text.toList = head ++ realm.toList ++ ['"']

theorem isWordChar_iff {char : Char} :
    isWordChar char ↔
      ('A' ≤ char ∧ char ≤ 'Z') ∨ ('a' ≤ char ∧ char ≤ 'z') ∨ ('0' ≤ char ∧ char ≤ '9') ∨
        char = '_' := by
  unfold isWordChar Char.isAlphanum Char.isAlpha Char.isUpper Char.isLower Char.isDigit
  simp only [Bool.or_eq_true, Bool.and_eq_true, decide_eq_true_eq, or_assoc]
  exact Iff.rfl

theorem isRealm_iff {realm : String} :
    IsRealm realm ↔ realm.toList ≠ [] ∧ ∀ char ∈ realm.toList, isWordChar char := by
  simp only [IsRealm, isWordChar_iff, ne_eq, String.toList_eq_nil_iff]

instance (realm : String) : Decidable (IsRealm realm) :=
  decidable_of_iff (realm.toList ≠ [] ∧ realm.toList.all isWordChar)
    (by rw [isRealm_iff, List.all_eq_true])

theorem closedWord?_eq_some_iff {text word : List Char} :
    closedWord? text = some word ↔
      (word ≠ [] ∧ ∀ char ∈ word, isWordChar char) ∧ text = word ++ ['"'] := by
  rw [closedWord?]
  constructor
  · intro closed
    split at closed
    case isTrue ends =>
      cases closed
      refine ⟨⟨ends.1, List.all_eq_true.mp List.all_takeWhile⟩, ?_⟩
      have split := List.prefix_iff_eq_append.mp (List.takeWhile_prefix isWordChar (l := text))
      rw [ends.2] at split
      exact split.symm
    case isFalse => cases closed
  · rintro ⟨⟨nonempty, letters⟩, rfl⟩
    have stops : (word ++ ['"']).takeWhile isWordChar = word := by
      rw [List.takeWhile_append_of_pos letters]
      simp [isWordChar]
    rw [stops, if_pos ⟨nonempty, List.drop_left⟩]

theorem realm?_eq_some_iff {text word : List Char} :
    realm? text = some word ↔
      (word ≠ [] ∧ ∀ char ∈ word, isWordChar char) ∧
        ∃ head, Ascii.SameLetters head opening ∧ text = head ++ word ++ ['"'] := by
  have lower : opening.map Char.toLower = opening := by decide
  rw [realm?]
  constructor
  · intro found
    split at found
    case isTrue opens =>
      obtain ⟨letters, rest⟩ := closedWord?_eq_some_iff.mp found
      refine ⟨letters, text.take opening.length, ?_, ?_⟩
      · rw [Ascii.sameLetters_iff, lower, opens]
      · rw [List.append_assoc, ← rest, List.take_append_drop]
    case isFalse => cases found
  · rintro ⟨letters, head, alike, rfl⟩
    have length : head.length = opening.length := alike.length_eq
    rw [List.append_assoc, ← length, List.take_left, List.drop_left,
      Ascii.sameLetters_iff.mp alike, lower, if_pos rfl, closedWord?_eq_some_iff]
    exact ⟨letters, rfl⟩

theorem isFor_iff {realm text : String} :
    IsFor realm text ↔ realm? text.toList = some realm.toList := by
  have literal : "basic realm=\"".toList = opening := by decide
  rw [realm?_eq_some_iff, IsFor, isRealm_iff, literal]

/-- The length tells that no challenge is empty. -/
theorem IsFor.ne_empty {realm text : String} (isFor : IsFor realm text) : text ≠ "" := by
  rintro rfl
  obtain ⟨-, head, -, written⟩ := isFor
  simp at written

theorem IsFor.parse_eq {realm text : String} (isFor : IsFor realm text) :
    parse (some text) = .ok realm := by
  simp only [parse, isFor.ne_empty, if_false, isFor_iff.mp isFor, String.ofList_toList]

/-- What is no challenge for a realm is refused, and handed back. -/
theorem parse_of_not_isFor {challenge : Option String}
    (unreadable : ∀ realm text, challenge = some text → ¬IsFor realm text) :
    ∃ message, parse challenge = .error (.malformed message challenge) := by
  cases challenge with
  | none => exact ⟨_, rfl⟩
  | some text =>
      by_cases empty : text = ""
      · exact ⟨_, by simp only [parse, empty, if_true]; rfl⟩
      · cases found : realm? text.toList with
        | none => exact ⟨_, by simp only [parse, empty, if_false, found]; rfl⟩
        | some word =>
            refine absurd ?_ (unreadable (String.ofList word) text rfl)
            rw [isFor_iff, found, String.toList_ofList]

theorem parse_eq_ok_iff {challenge : Option String} {realm : String} :
    parse challenge = .ok realm ↔ ∃ text, challenge = some text ∧ IsFor realm text := by
  constructor
  · intro parsed
    by_contra unreadable
    have unfit : ∀ other text, challenge = some text → ¬IsFor other text := by
      intro other text given isFor
      obtain rfl : other = realm := by
        rw [given, isFor.parse_eq] at parsed
        exact Except.ok.inj parsed
      exact unreadable ⟨text, given, isFor⟩
    obtain ⟨message, failed⟩ := parse_of_not_isFor unfit
    rw [failed] at parsed
    cases parsed
  · rintro ⟨text, rfl, isFor⟩
    exact isFor.parse_eq

theorem isBasic_iff {challenge : Option String} :
    isBasic challenge ↔ ∃ realm, parse challenge = .ok realm := by
  simp only [parse_eq_ok_iff]
  cases challenge with
  | none => simp [isBasic]
  | some text =>
      simp only [isBasic, Bool.and_eq_true, decide_eq_true_eq, Option.isSome_iff_exists]
      constructor
      · rintro ⟨-, word, found⟩
        exact ⟨String.ofList word, text, rfl, isFor_iff.mpr (by rw [found, String.toList_ofList])⟩
      · rintro ⟨realm, _, ⟨⟩, isFor⟩
        exact ⟨isFor.ne_empty, _, isFor_iff.mp isFor⟩

theorem toList_forRealm (realm : String) :
    (forRealm realm).toList = "Basic realm".toList ++ ['=', '"'] ++ realm.toList ++ ['"'] := by
  have literal : "Basic realm=\"".toList = "Basic realm".toList ++ ['=', '"'] := by decide
  rw [forRealm, String.toList_append, String.toList_append, literal]
  rfl

/-- The written challenge for a word is one for that word, and for nothing else. -/
theorem isFor_forRealm {realm other : String} :
    IsFor other (forRealm realm) ↔ IsRealm realm ∧ other = realm := by
  have alike : Ascii.SameLetters ("Basic realm".toList ++ ['=', '"']) "basic realm=\"".toList := by
    rw [Ascii.sameLetters_iff]
    decide
  constructor
  · rintro ⟨isRealm, head, same, written⟩
    rw [toList_forRealm] at written
    have body := List.append_cancel_right written
    obtain ⟨-, realms⟩ := List.append_inj body (alike.length_eq.trans same.length_eq.symm)
    obtain rfl : other = realm := String.toList_inj.mp realms.symm
    exact ⟨isRealm, rfl⟩
  · rintro ⟨isRealm, rfl⟩
    exact ⟨isRealm, _, alike, toList_forRealm other⟩

/-- A challenge for a realm is the written one up to the case of its first eleven letters. -/
theorem IsFor.exists_head {realm text : String} (isFor : IsFor realm text) :
    ∃ head rest, text.toList = head ++ rest ∧
      (forRealm realm).toList = "Basic realm".toList ++ rest ∧
        Ascii.SameLetters head "Basic realm".toList := by
  obtain ⟨-, head, same, written⟩ := isFor
  have literal : "basic realm=\"".toList = "basic realm".toList ++ ['=', '"'] := by decide
  rw [literal] at same
  have words := List.forall₂_take_append head _ _ same
  have marks : head.drop "basic realm".toList.length = ['=', '"'] := by
    have pair := List.forall₂_drop_append head _ _ same
    generalize head.drop "basic realm".toList.length = tail at pair
    cases pair with
    | cons equals rest =>
        cases rest with
        | cons quotes rest =>
            cases rest
            rw [equals.eq (by decide), quotes.eq (by decide)]
  refine ⟨head.take "basic realm".toList.length, ['=', '"'] ++ realm.toList ++ ['"'], ?_, ?_, ?_⟩
  · rw [written, ← marks, ← List.append_assoc, ← List.append_assoc, List.take_append_drop]
  · rw [toList_forRealm, List.append_assoc, List.append_assoc, List.append_assoc]
  · rw [Ascii.sameLetters_iff, Ascii.sameLetters_iff.mp words]
    decide

/-- Parsing accepts the challenges for words and gives their realms; it refuses everything else, and
hands that back. -/
theorem parse_accepts (challenge : Option String) :
    (∀ realm, parse challenge = .ok realm ↔ ∃ text, challenge = some text ∧ IsFor realm text) ∧
      ((∃ message, parse challenge = .error (.malformed message challenge)) ↔
        ∀ realm text, challenge = some text → ¬IsFor realm text) ∧
      (isBasic challenge ↔ ∃ realm, parse challenge = .ok realm) ∧
      (∀ realm, parse (some (forRealm realm)) = .ok realm ↔ IsRealm realm) ∧
      (∀ realm, (∃ message, parse (some (forRealm realm)) =
        .error (.malformed message (some (forRealm realm)))) ↔ ¬IsRealm realm) ∧
      ∀ realm text, challenge = some text → parse challenge = .ok realm →
        parse (some (forRealm realm)) = .ok realm ∧
          ∃ head rest, text.toList = head ++ rest ∧
            (forRealm realm).toList = "Basic realm".toList ++ rest ∧
              Ascii.SameLetters head "Basic realm".toList := by
  have reads (challenge : Option String) :
      (∃ message, parse challenge = .error (.malformed message challenge)) ↔
        ∀ realm text, challenge = some text → ¬IsFor realm text := by
    refine ⟨?_, parse_of_not_isFor⟩
    rintro ⟨message, failed⟩ realm text rfl isFor
    rw [isFor.parse_eq] at failed
    cases failed
  refine ⟨fun realm => parse_eq_ok_iff, reads challenge, isBasic_iff, fun realm => ?_,
    fun realm => ?_, ?_⟩
  · simp [parse_eq_ok_iff, isFor_forRealm]
  · rw [reads]
    simp [isFor_forRealm]
  · rintro realm text rfl parsed
    obtain ⟨_, ⟨⟩, isFor⟩ := parse_eq_ok_iff.mp parsed
    exact ⟨(isFor_forRealm.mpr ⟨isFor.1, rfl⟩).parse_eq, isFor.exists_head⟩

end Challenge
end Countersign
