import Countersign.Credentials

/-!
# The header that carries credentials

The written form of bytes has four characters for every three bytes that are begun.  The last ones
are padding, as many as there are bytes missing from the last three, and all others are digits.  So
what stands in the header after the name of the scheme is visible ASCII text, whatever the username
and the password are.
-/

namespace Countersign

namespace Base64

/-- Whether a character is a digit of the standard alphabet. -/
def IsDigit (char : Char) : Prop :=
  ('A' ≤ char ∧ char ≤ 'Z') ∨ ('a' ≤ char ∧ char ≤ 'z') ∨ ('0' ≤ char ∧ char ≤ '9') ∨
    char = '+' ∨ char = '/'

instance (char : Char) : Decidable (IsDigit char) :=
  inferInstanceAs (Decidable (_ ∨ _ ∨ _ ∨ _ ∨ _))

theorem isDigit_digit (value : Nat) : IsDigit (digit value) := by
  by_cases small : value < 63
  · have all : ∀ value < 63, IsDigit (digit value) := by decide
    exact all value small
  · have large : digit value = '/' := by
      rw [digit, if_neg (by omega), if_neg (by omega), if_neg (by omega), if_neg (by omega)]
    rw [large]
    decide

theorem isDigit_of_mem_map {values : List Nat} : ∀ char ∈ values.map digit, IsDigit char := by
  intro char member
  obtain ⟨value, -, rfl⟩ := List.mem_map.mp member
  exact isDigit_digit value

/-- Whether a text has the shape of a number of bytes in writing. -/
structure HasShape (count : Nat) (text : List Char) : Prop where
  /-- There are four characters for every three bytes that are begun. -/
  length : text.length = 4 * ((count + 2) / 3)
  /-- The last ones fill up for the bytes that are missing from the last three. -/
  padded : ∃ digits, text = digits ++ List.replicate ((3 - count % 3) % 3) padding ∧
    ∀ char ∈ digits, IsDigit char

/-- Four digits in front stand for three more bytes. -/
theorem HasShape.group {count : Nat} {text digits : List Char} (shape : HasShape count text)
    (four : digits.length = 4) (areDigits : ∀ char ∈ digits, IsDigit char) :
    HasShape (count + 3) (digits ++ text) where
  length := by
    rw [List.length_append, four, shape.length]
    omega
  padded := by
    obtain ⟨later, rfl, laterAreDigits⟩ := shape.padded
    refine ⟨digits ++ later, ?_, ?_⟩
    · rw [Nat.add_mod_right, List.append_assoc]
    · intro char member
      rcases List.mem_append.mp member with front | back
      · exact areDigits char front
      · exact laterAreDigits char back

theorem hasShape_encode (bytes : List UInt8) : HasShape bytes.length (encode bytes) := by
  induction bytes using encode.induct with
  | case1 => exact { length := rfl, padded := ⟨[], rfl, nofun⟩ }
  | case2 first =>
      rw [encode]
      let values := [first.toNat / 4, first.toNat % 4 * 16]
      exact { length := by simp, padded := ⟨values.map digit, rfl, isDigit_of_mem_map⟩ }
  | case3 first second =>
      rw [encode]
      let values := [first.toNat / 4, first.toNat % 4 * 16 + second.toNat / 16,
        second.toNat % 16 * 4]
      exact { length := by simp, padded := ⟨values.map digit, rfl, isDigit_of_mem_map⟩ }
  | case4 first second third rest induction =>
      rw [encode]
      let values := [first.toNat / 4, first.toNat % 4 * 16 + second.toNat / 16,
        second.toNat % 16 * 4 + third.toNat / 64, third.toNat % 64]
      have four : (values.map digit).length = 4 := List.length_map digit
      exact induction.group four isDigit_of_mem_map

/-- Whether a character can be seen: an ASCII character that is no white space and no control
character. -/
def IsVisible (char : Char) : Prop :=
  '!' ≤ char ∧ char ≤ '~'

instance (char : Char) : Decidable (IsVisible char) :=
  inferInstanceAs (Decidable (_ ∧ _))

theorem IsDigit.isVisible {char : Char} (isDigit : IsDigit char) : IsVisible char := by
  have bounds : (0x41 ≤ char.toNat ∧ char.toNat ≤ 0x5a) ∨ (0x61 ≤ char.toNat ∧ char.toNat ≤ 0x7a) ∨
      (0x30 ≤ char.toNat ∧ char.toNat ≤ 0x39) ∨ char = '+' ∨ char = '/' := isDigit
  change 0x21 ≤ char.toNat ∧ char.toNat ≤ 0x7e
  rcases bounds with capital | small | figure | rfl | rfl
  · omega
  · omega
  · omega
  · decide
  · decide

theorem HasShape.isVisible {count : Nat} {text : List Char} (shape : HasShape count text)
    {char : Char} (written : char ∈ text) : IsVisible char := by
  obtain ⟨digits, rfl, areDigits⟩ := shape.padded
  rcases List.mem_append.mp written with front | back
  · exact (areDigits char front).isVisible
  · rw [List.eq_of_mem_replicate back]
    decide

end Base64

/-- A text has as many bytes in writing as it takes up. -/
theorem Utf8.length_encode (text : String) : (encode text).length = text.utf8ByteSize := by
  rw [← String.size_toByteArray, ← String.utf8Encode_toList, List.utf8Encode,
    List.size_toByteArray, encode]

namespace Credentials

/-- The value of the header is what is left of the line without its beginning. -/
theorem drop_credentialHeader (credentials : Credentials) :
    credentials.credentialHeader.toList.drop (authorizationHeader.length + 2) =
      credentials.headerValue.toList := by
  have beginning :
      authorizationHeader.length + 2 = (authorizationHeader ++ ": ").toList.length := by decide
  rw [credentialHeader, String.toList_append, beginning, List.drop_left]

/-- What the header of credentials looks like. -/
structure IsWellShaped (credentials : Credentials) : Prop where
  /-- The line is the name of the header, a colon, a space and the value. -/
  line : credentials.credentialHeader = "Authorization: " ++ credentials.headerValue
  /-- The value is the line from behind the name, the colon and the space on. -/
  cut : credentials.credentialHeader.toList.drop (authorizationHeader.length + 2) =
    credentials.headerValue.toList
  value : credentials.headerValue =
    "Basic " ++ encode credentials.username credentials.password
  /-- The encoded form is the written form of as many bytes as there are in the username, the colon
  and the password. -/
  shape : Base64.HasShape (credentials.username ++ ":" ++ credentials.password).utf8ByteSize
    (encode credentials.username credentials.password).toList
  /-- Nothing in it is a line break, a space or no ASCII character. -/
  visible : ∀ char ∈ (encode credentials.username credentials.password).toList,
    Base64.IsVisible char
  /-- A handle for the credentials has this line and this value. -/
  handed : credentials.handle.realm = credentials.realm ∧
    credentials.handle.credentialHeader = credentials.credentialHeader ∧
    credentials.handle.headerValue = credentials.headerValue

/-- Whatever the realm, the username and the password are, the header of credentials is the name of
the scheme and one visible word of a length that they tell. -/
theorem isWellShaped (credentials : Credentials) : credentials.IsWellShaped := by
  have shape : Base64.HasShape (credentials.username ++ ":" ++ credentials.password).utf8ByteSize
      (encode credentials.username credentials.password).toList := by
    rw [encode, String.toList_ofList, ← Utf8.length_encode]
    exact Base64.hasShape_encode _
  constructor
  case line => rfl
  case cut => exact credentials.drop_credentialHeader
  case value => rfl
  case shape => exact shape
  case visible => exact fun char written => shape.isVisible written
  case handed => exact ⟨rfl, rfl, rfl⟩

/-- Line breaks in a password do not reach the header. -/
example :
    ({ realm := "a", username := "u", password := "\r\nX: y" } : Credentials).headerValue =
      "Basic dToNClg6IHk=" := by
  decide +kernel

end Credentials
end Countersign
