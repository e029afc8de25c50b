import Countersign.Text.Utf8

/-!
# Reading UTF-8

The bytes of a text are read as that text, so texts with the same bytes are the same.
-/

namespace Countersign
namespace Utf8

/-- A first byte that announces others is followed by them. -/
theorem decodeFrom_start {byte : UInt8} {lead : Lead} (announces : lead? byte.toNat = some lead)
    (position : Nat) (rest : List UInt8) :
    decodeFrom position none (byte :: rest) =
      decodeFrom (position + 1)
        (some
          { start := byte, position, width := 1, more := lead.tails - 1
            low := lead.low, high := lead.high, bits := lead.bits })
        rest := by
  have large : ¬byte.toNat < 0x80 := by
    intro small
    rw [lead?, if_pos (by omega)] at announces
    cases announces
  rw [decodeFrom, if_neg large, announces]

/-- A byte in the middle of a character adds six bits to it. -/
theorem decodeFrom_middle {char : Partial} {byte : UInt8} {more : Nat}
    (continues : char.low ≤ byte.toNat ∧ byte.toNat ≤ char.high) (awaited : char.more = more + 1)
    (position : Nat) (rest : List UInt8) :
    decodeFrom position (some char) (byte :: rest) =
      decodeFrom (position + 1)
        (some
          { char with
            width := char.width + 1, more, low := 0x80, high := 0xbf
            bits := char.bits * 64 + (byte.toNat - 0x80) })
        rest := by
  rw [decodeFrom, if_pos continues, awaited]

/-- The last byte of a character completes it. -/
theorem decodeFrom_end {char : Partial} {byte : UInt8}
    (continues : char.low ≤ byte.toNat ∧ byte.toNat ≤ char.high) (awaited : char.more = 0)
    (position : Nat) (rest : List UInt8) :
    decodeFrom position (some char) (byte :: rest) =
      (decodeFrom (position + 1) none rest).map
        (Char.ofNat (char.bits * 64 + (byte.toNat - 0x80)) :: ·) := by
  rw [decodeFrom, if_pos continues, awaited]

section Leads

variable (point : Nat)

theorem lead?_two (low : 0x80 ≤ point) (high : point ≤ 0x7ff) :
    lead? (point / 64 % 32 + 192) =
      some { tails := 1, low := 0x80, high := 0xbf, bits := point / 64 } := by
  rw [lead?, if_neg (by omega), if_pos (by omega),
    show point / 64 % 32 + 192 - 0xc0 = point / 64 by omega]

/-- The first byte of a character of three announces a range in which the second is. -/
theorem lead?_three (low : 0x800 ≤ point) (high : point ≤ 0xffff)
    (scalar : point < 0xd800 ∨ 0xdfff < point) :
    ∃ least greatest, lead? (point / 4096 % 16 + 224) =
        some { tails := 2, low := least, high := greatest, bits := point / 4096 } ∧
      least ≤ point / 64 % 64 + 128 ∧ point / 64 % 64 + 128 ≤ greatest := by
  rw [lead?, if_neg (by omega), if_neg (by omega)]
  split
  case isTrue =>
    rw [show point / 4096 = 0 by omega]
    exact ⟨_, _, rfl, by omega, by omega⟩
  split
  case isTrue =>
    rw [show point / 4096 = 0xd by omega]
    exact ⟨_, _, rfl, by omega, by omega⟩
  rw [if_pos (by omega), show point / 4096 % 16 + 224 - 0xe0 = point / 4096 by omega]
  exact ⟨_, _, rfl, by omega, by omega⟩

/-- The first byte of a character of four announces a range in which the second is. -/
theorem lead?_four (low : 0x10000 ≤ point) (high : point < 0x110000) :
    ∃ least greatest, lead? (point / 262144 % 8 + 240) =
        some { tails := 3, low := least, high := greatest, bits := point / 262144 } ∧
      least ≤ point / 4096 % 64 + 128 ∧ point / 4096 % 64 + 128 ≤ greatest := by
  rw [lead?, if_neg (by omega), if_neg (by omega), if_neg (by omega), if_neg (by omega),
    if_neg (by omega)]
  split
  case isTrue =>
    rw [show point / 262144 = 0 by omega]
    exact ⟨_, _, rfl, by omega, by omega⟩
  split
  case isTrue =>
    rw [show point / 262144 % 8 + 240 - 0xf0 = point / 262144 by omega]
    exact ⟨_, _, rfl, by omega, by omega⟩
  rw [if_pos (by omega), show point / 262144 = 4 by omega]
  exact ⟨_, _, rfl, by omega, by omega⟩

end Leads

/-- The bytes of a character are read as that character. -/
theorem decodeFrom_utf8EncodeChar (char : Char) (position : Nat) (rest : List UInt8) :
    ∃ next, decodeFrom position none (String.utf8EncodeChar char ++ rest) =
      (decodeFrom next none rest).map (char :: ·) := by
  have scalar : char.toNat < 0xd800 ∨ 0xdfff < char.toNat ∧ char.toNat < 0x110000 := char.valid
  have complete {point : Nat} (equal : point = char.toNat) : Char.ofNat point = char := by
    rw [equal, Char.ofNat_toNat]
  rw [String.utf8EncodeChar, Char.toNat_val]
  generalize point_eq : char.toNat = point at scalar complete
  split
  case isTrue one =>
    have byte := UInt8.toNat_ofNat_of_lt' (show point < 256 by omega)
    refine ⟨position + 1, ?_⟩
    rw [List.singleton_append, decodeFrom, byte, if_pos (by omega), complete rfl]
  split
  case isTrue two =>
    have first := UInt8.toNat_ofNat_of_lt' (show point / 64 % 32 + 192 < 256 by omega)
    have second := UInt8.toNat_ofNat_of_lt' (show point % 64 + 128 < 256 by omega)
    refine ⟨position + 2, ?_⟩
    rw [List.cons_append, List.cons_append,
      decodeFrom_start (by rw [first, lead?_two _ (by omega) two]),
      decodeFrom_end (by rw [second]; dsimp only; omega) rfl, second,
      complete (by dsimp only; omega)]
    rfl
  split
  case isTrue three =>
    have first := UInt8.toNat_ofNat_of_lt' (show point / 4096 % 16 + 224 < 256 by omega)
    have second := UInt8.toNat_ofNat_of_lt' (show point / 64 % 64 + 128 < 256 by omega)
    have third := UInt8.toNat_ofNat_of_lt' (show point % 64 + 128 < 256 by omega)
    obtain ⟨least, greatest, announces, least_le, le_greatest⟩ :=
      lead?_three point (by omega) three (by omega)
    refine ⟨position + 3, ?_⟩
    rw [List.cons_append, List.cons_append, List.cons_append,
      decodeFrom_start (by rw [first, announces]),
      decodeFrom_middle (by rw [second]; exact ⟨least_le, le_greatest⟩) rfl,
      decodeFrom_end (by rw [third]; dsimp only; omega) rfl, second, third,
      complete (by dsimp only; omega)]
    rfl
  case isFalse four =>
    have first := UInt8.toNat_ofNat_of_lt' (show point / 262144 % 8 + 240 < 256 by omega)
    have second := UInt8.toNat_ofNat_of_lt' (show point / 4096 % 64 + 128 < 256 by omega)
    have third := UInt8.toNat_ofNat_of_lt' (show point / 64 % 64 + 128 < 256 by omega)
    have fourth := UInt8.toNat_ofNat_of_lt' (show point % 64 + 128 < 256 by omega)
    obtain ⟨least, greatest, announces, least_le, le_greatest⟩ :=
      lead?_four point (by omega) (by omega)
    refine ⟨position + 4, ?_⟩
    rw [List.cons_append, List.cons_append, List.cons_append, List.cons_append,
      decodeFrom_start (by rw [first, announces]),
      decodeFrom_middle (by rw [second]; exact ⟨least_le, le_greatest⟩) rfl,
      decodeFrom_middle (by rw [third]; dsimp only; omega) rfl,
      decodeFrom_end (by rw [fourth]; dsimp only; omega) rfl, second, third, fourth,
      complete (by dsimp only; omega)]
    rfl

theorem decodeFrom_encode (text : List Char) (position : Nat) :
    decodeFrom position none (text.flatMap String.utf8EncodeChar) = .ok text := by
  induction text generalizing position with
  | nil => rfl
  | cons char text induction =>
      obtain ⟨next, read⟩ :=
        decodeFrom_utf8EncodeChar char position (text.flatMap String.utf8EncodeChar)
      rw [List.flatMap_cons, read, induction]
      rfl

/-- The bytes of a text are read as that text. -/
theorem decode_encode (text : String) : decode (encode text) = .ok text.toList :=
  decodeFrom_encode text.toList 0

/-- Texts with the same bytes are the same. -/
theorem encode_inj {left right : String} : encode left = encode right ↔ left = right := by
  refine ⟨fun same => ?_, congrArg encode⟩
  have read := decode_encode left
  rw [same, decode_encode right] at read
  exact String.toList_inj.mp (Except.ok.inj read).symm

end Utf8
end Countersign
