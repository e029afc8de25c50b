import Countersign.Credentials
import Countersign.Text.Ascii

/-!
# Credentials are ASCII texts

The digits of Base64 and its padding are ASCII characters, so the header value of any credentials
can be sent.
-/

namespace Countersign

namespace Ascii

theorem faultFrom_eq_none {text : List Char} (ascii : ∀ char ∈ text, isAscii char)
    (position : Nat) : faultFrom position text = none := by
  induction text generalizing position with
  | nil => rfl
  | cons char text induction =>
      rw [faultFrom, if_pos (ascii char (.head _))]
      exact induction (fun other member => ascii other (.tail _ member)) (position + 1)

end Ascii

namespace Base64

theorem isAscii_digit (value : Nat) : Ascii.isAscii (digit value) := by
  by_cases small : value < 63
  · have all : ∀ value < 63, Ascii.isAscii (digit value) = true := by decide
    exact all value small
  · have large : digit value = '/' := by
      rw [digit, if_neg (by omega), if_neg (by omega), if_neg (by omega), if_neg (by omega)]
    rw [large]
    rfl

theorem isAscii_of_mem_encode {bytes : List UInt8} {char : Char} (written : char ∈ encode bytes) :
    Ascii.isAscii char := by
  induction bytes using encode.induct with
  | case1 => cases written
  | case2 first =>
      simp only [encode, List.mem_cons, List.not_mem_nil, or_false] at written
      rcases written with rfl | rfl | rfl | rfl <;> first | exact isAscii_digit _ | rfl
  | case3 first second =>
      simp only [encode, List.mem_cons, List.not_mem_nil, or_false] at written
      rcases written with rfl | rfl | rfl | rfl <;> first | exact isAscii_digit _ | rfl
  | case4 first second third rest induction =>
      simp only [encode, List.mem_cons] at written
      rcases written with rfl | rfl | rfl | rfl | later
      · exact isAscii_digit _
      · exact isAscii_digit _
      · exact isAscii_digit _
      · exact isAscii_digit _
      · exact induction later

end Base64

/-- Credentials can be sent. -/
theorem Credentials.fault?_headerValue (credentials : Credentials) :
    Ascii.fault? credentials.headerValue = none := by
  apply Ascii.faultFrom_eq_none
  intro char written
  rw [headerValue, encode, String.toList_append, List.mem_append] at written
  rcases written with scheme | digits
  · have all : "Basic ".toList.all Ascii.isAscii = true := by decide +kernel
    exact List.all_eq_true.mp all char scheme
  · rw [String.toList_ofList] at digits
    exact Base64.isAscii_of_mem_encode digits

end Countersign
