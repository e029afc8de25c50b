import Countersign.Text.Base64

/-!
# Reading Base64

Reading is strict, after RFC 4648: the text consists of groups of four, the padding stands at the
end of the last group alone, every other character is a digit of the standard alphabet, and the bits
of the last digit that belong to no byte are zero.  Read like this, a text has been written, and
only a written text can be read.
-/

namespace Countersign
namespace Base64

/-- The value of a digit. -/
def value? (char : Char) : Option Nat :=
  if 'A' ≤ char ∧ char ≤ 'Z' then some (char.toNat - 0x41)
  else if 'a' ≤ char ∧ char ≤ 'z' then some (char.toNat - 0x61 + 26)
  else if '0' ≤ char ∧ char ≤ '9' then some (char.toNat - 0x30 + 52)
  else if char = '+' then some 62
  else if char = '/' then some 63
  else none

/-- The bytes of a last group that ends with padding. -/
def decodeLast (first second third : Char) : Option (List UInt8) := do
  let a ← value? first
  let b ← value? second
  if third = padding then
    if b % 16 = 0 then some [UInt8.ofNat (a * 4 + b / 16)] else none
  else
    let c ← value? third
    if c % 4 = 0 then some [UInt8.ofNat (a * 4 + b / 16), UInt8.ofNat (b % 16 * 16 + c / 4)]
    else none

/-- The bytes of a written form. -/
def decode : List Char → Option (List UInt8)
  | [] => some []
  | first :: second :: third :: fourth :: rest =>
      if fourth = padding then
        if rest = [] then decodeLast first second third else none
      else do
        let a ← value? first
        let b ← value? second
        let c ← value? third
        let d ← value? fourth
        let bytes ← decode rest
        some (UInt8.ofNat (a * 4 + b / 16) :: UInt8.ofNat (b % 16 * 16 + c / 4) ::
          UInt8.ofNat (c % 4 * 64 + d) :: bytes)
  | _ => none

theorem value?_digit : ∀ value < 64, value? (digit value) = some value := by
  decide

theorem digit_ne_padding : ∀ value < 64, digit value ≠ padding := by
  decide

/-- A character that has a value is the digit of that value. -/
theorem digit_of_value? {char : Char} {value : Nat} (valued : value? char = some value) :
    value < 64 ∧ digit value = char := by
  -- In each range the code point of the digit comes out as that of the character.
  have same {point : Nat} (equal : point = char.toNat) : Char.ofNat point = char := by
    rw [equal, Char.ofNat_toNat]
  rw [value?] at valued
  split at valued
  case isTrue upper =>
    obtain ⟨low, high⟩ : 0x41 ≤ char.toNat ∧ char.toNat ≤ 0x5a := upper
    cases valued
    refine ⟨by omega, ?_⟩
    rw [digit, if_pos (by omega)]
    exact same (by omega)
  split at valued
  case isTrue lower =>
    obtain ⟨low, high⟩ : 0x61 ≤ char.toNat ∧ char.toNat ≤ 0x7a := lower
    cases valued
    refine ⟨by omega, ?_⟩
    rw [digit, if_neg (by omega), if_pos (by omega)]
    exact same (by omega)
  split at valued
  case isTrue figure =>
    obtain ⟨low, high⟩ : 0x30 ≤ char.toNat ∧ char.toNat ≤ 0x39 := figure
    cases valued
    refine ⟨by omega, ?_⟩
    rw [digit, if_neg (by omega), if_neg (by omega), if_pos (by omega)]
    exact same (by omega)
  split at valued
  case isTrue plus =>
    cases valued
    exact ⟨by decide, plus.symm⟩
  split at valued
  case isTrue slash =>
    cases valued
    exact ⟨by decide, slash.symm⟩
  cases valued

/-- What has been written is read as it was. -/
theorem decode_encode (bytes : List UInt8) : decode (encode bytes) = some bytes := by
  have joined (byte : UInt8) {value : Nat} (equal : value = byte.toNat) :
      UInt8.ofNat value = byte := by
    rw [equal, UInt8.ofNat_toNat]
  induction bytes using encode.induct with
  | case1 => rfl
  | case2 first =>
      have := first.toNat_lt
      simp only [encode, decode, decodeLast, if_true, value?_digit (first.toNat / 4) (by omega),
        value?_digit (first.toNat % 4 * 16) (by omega), Option.bind_some, Option.bind_eq_bind]
      rw [if_pos (by omega), joined first (by omega)]
  | case3 first second =>
      have := first.toNat_lt
      have := second.toNat_lt
      simp only [encode, decode, decodeLast, if_true,
        digit_ne_padding (second.toNat % 16 * 4) (by omega), if_false,
        value?_digit (first.toNat / 4) (by omega),
        value?_digit (first.toNat % 4 * 16 + second.toNat / 16) (by omega),
        value?_digit (second.toNat % 16 * 4) (by omega), Option.bind_some, Option.bind_eq_bind]
      rw [if_pos (by omega), joined first (by omega), joined second (by omega)]
  | case4 first second third rest induction =>
      have := first.toNat_lt
      have := second.toNat_lt
      have := third.toNat_lt
      simp only [encode, decode, digit_ne_padding (third.toNat % 64) (by omega), if_false,
        value?_digit (first.toNat / 4) (by omega),
        value?_digit (first.toNat % 4 * 16 + second.toNat / 16) (by omega),
        value?_digit (second.toNat % 16 * 4 + third.toNat / 64) (by omega),
        value?_digit (third.toNat % 64) (by omega), induction, Option.bind_some,
        Option.bind_eq_bind]
      rw [joined first (by omega), joined second (by omega),
        joined third (by omega)]

section Groups

variable {a b c d : Nat}

theorem encode_one (a_small : a < 64) (b_small : b < 64) (canonical : b % 16 = 0) :
    encode [UInt8.ofNat (a * 4 + b / 16)] = [digit a, digit b, padding, padding] := by
  simp only [encode, UInt8.toNat_ofNat_of_lt' (show a * 4 + b / 16 < 256 by omega)]
  rw [show (a * 4 + b / 16) / 4 = a by omega, show (a * 4 + b / 16) % 4 * 16 = b by omega]

theorem encode_two (a_small : a < 64) (b_small : b < 64) (c_small : c < 64)
    (canonical : c % 4 = 0) :
    encode [UInt8.ofNat (a * 4 + b / 16), UInt8.ofNat (b % 16 * 16 + c / 4)] =
      [digit a, digit b, digit c, padding] := by
  simp only [encode, UInt8.toNat_ofNat_of_lt' (show a * 4 + b / 16 < 256 by omega),
    UInt8.toNat_ofNat_of_lt' (show b % 16 * 16 + c / 4 < 256 by omega)]
  rw [show (a * 4 + b / 16) / 4 = a by omega,
    show (a * 4 + b / 16) % 4 * 16 + (b % 16 * 16 + c / 4) / 16 = b by omega,
    show (b % 16 * 16 + c / 4) % 16 * 4 = c by omega]

theorem encode_three (a_small : a < 64) (b_small : b < 64) (c_small : c < 64) (d_small : d < 64)
    (rest : List UInt8) :
    encode (UInt8.ofNat (a * 4 + b / 16) :: UInt8.ofNat (b % 16 * 16 + c / 4) ::
        UInt8.ofNat (c % 4 * 64 + d) :: rest) =
      digit a :: digit b :: digit c :: digit d :: encode rest := by
  simp only [encode, UInt8.toNat_ofNat_of_lt' (show a * 4 + b / 16 < 256 by omega),
    UInt8.toNat_ofNat_of_lt' (show b % 16 * 16 + c / 4 < 256 by omega),
    UInt8.toNat_ofNat_of_lt' (show c % 4 * 64 + d < 256 by omega)]
  rw [show (a * 4 + b / 16) / 4 = a by omega,
    show (a * 4 + b / 16) % 4 * 16 + (b % 16 * 16 + c / 4) / 16 = b by omega,
    show (b % 16 * 16 + c / 4) % 16 * 4 + (c % 4 * 64 + d) / 64 = c by omega,
    show (c % 4 * 64 + d) % 64 = d by omega]

end Groups

theorem encode_of_decodeLast {first second third : Char} {bytes : List UInt8}
    (decoded : decodeLast first second third = some bytes) :
    encode bytes = [first, second, third, padding] := by
  simp only [decodeLast, Option.bind_eq_bind, Option.bind_eq_some_iff] at decoded
  obtain ⟨a, first_value, b, second_value, decoded⟩ := decoded
  obtain ⟨a_small, rfl⟩ := digit_of_value? first_value
  obtain ⟨b_small, rfl⟩ := digit_of_value? second_value
  split at decoded
  case isTrue padded =>
    split at decoded
    case isTrue canonical =>
      cases decoded
      rw [encode_one a_small b_small canonical, padded]
    case isFalse => cases decoded
  case isFalse =>
    obtain ⟨c, third_value, ended⟩ := Option.bind_eq_some_iff.mp decoded
    obtain ⟨c_small, rfl⟩ := digit_of_value? third_value
    split at ended
    case isTrue canonical =>
      cases ended
      exact encode_two a_small b_small c_small canonical
    case isFalse => cases ended

/-- Only what has been written can be read. -/
theorem encode_of_decode {text : List Char} {bytes : List UInt8}
    (decoded : decode text = some bytes) : encode bytes = text := by
  induction text using decode.induct generalizing bytes with
  | case1 =>
      cases decoded
      rfl
  | case2 first second third =>
      simp only [decode, if_true] at decoded
      exact encode_of_decodeLast decoded
  | case3 first second third rest more => simp [decode, more] at decoded
  | case4 first second third fourth rest unpadded induction =>
      simp only [decode, unpadded, if_false, Option.bind_eq_bind, Option.bind_eq_some_iff]
        at decoded
      obtain ⟨a, first_value, b, second_value, c, third_value, d, fourth_value, others, rest_bytes,
        decoded⟩ := decoded
      obtain ⟨a_small, rfl⟩ := digit_of_value? first_value
      obtain ⟨b_small, rfl⟩ := digit_of_value? second_value
      obtain ⟨c_small, rfl⟩ := digit_of_value? third_value
      obtain ⟨d_small, rfl⟩ := digit_of_value? fourth_value
      cases decoded
      rw [encode_three a_small b_small c_small d_small, induction rest_bytes]
  | case5 => simp [decode] at decoded

/-- A text is read as bytes if and only if it is how they are written. -/
theorem decode_eq_some_iff {text : List Char} {bytes : List UInt8} :
    decode text = some bytes ↔ text = encode bytes :=
  ⟨fun decoded => (encode_of_decode decoded).symm, fun written => by rw [written, decode_encode]⟩

/-- The bits that padding cuts off have to be zero. -/
example : decode ['Q', 'Q', '=', '='] = some [65] ∧ decode ['Q', 'R', '=', '='] = none := by
  decide

end Base64
end Countersign
