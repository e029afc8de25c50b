import Countersign.Credentials
import Countersign.Proofs.Text.Base64
import Countersign.Proofs.Text.Utf8

/-!
# Reading encoded credentials

Encoding loses nothing but the place of the colon that it puts between a username and a password.
Whoever reads an encoded form takes the first colon for it, and so gets back both unless there is
one in the username.
-/

namespace Countersign
namespace Credentials

/-- What stands before and after the first colon of a text. -/
def divide? (text : List Char) : Option (String × String) :=
  match text.dropWhile (· ≠ ':') with
  | [] => none
  | _ :: password => some (String.ofList (text.takeWhile (· ≠ ':')), String.ofList password)

/-- The username and the password in an encoded form. -/
def decode (encoded : String) : Option (String × String) := do
  let bytes ← Base64.decode encoded.toList
  let text ← (Utf8.decode bytes).toOption
  divide? text

theorem divide?_join {username : List Char} (plain : ':' ∉ username) (password : List Char) :
    divide? (username ++ ':' :: password) =
      some (String.ofList username, String.ofList password) := by
  have all : ∀ char ∈ username, decide (char ≠ ':') = true := by
    intro char member
    simp only [decide_eq_true_eq]
    rintro rfl
    exact plain member
  rw [divide?, List.dropWhile_append_of_pos all, List.takeWhile_append_of_pos all]
  simp

/-- There is no colon before the first one. -/
theorem not_mem_of_divide? {text : List Char} {username password : String}
    (divided : divide? text = some (username, password)) : ':' ∉ username.toList := by
  rw [divide?] at divided
  split at divided
  · cases divided
  · cases divided
    intro member
    rw [String.toList_ofList] at member
    simpa using List.all_eq_true.mp List.all_takeWhile _ member

theorem decode_base64_encode (username password : String) :
    Base64.decode (encode username password).toList =
      some (Utf8.encode (username ++ ":" ++ password)) := by
  rw [encode, String.toList_ofList, Base64.decode_encode]

theorem decode_encode (username password : String) :
    decode (encode username password) = divide? (username.toList ++ ':' :: password.toList) := by
  rw [decode, decode_base64_encode]
  simp [Utf8.decode_encode, Except.toOption]

/-- An encoded form is read strictly as the bytes of what was encoded, so two are the same only if
that was, and reading it as a username and a password gives back both exactly if there is no colon
in the username. -/
theorem encode_lossless :
    (∀ text bytes, Base64.decode text = some bytes ↔ text = Base64.encode bytes) ∧
      (∀ username password, Base64.decode (encode username password).toList =
        some (Utf8.encode (username ++ ":" ++ password))) ∧
      (∀ username password other secret, encode username password = encode other secret ↔
        username ++ ":" ++ password = other ++ ":" ++ secret) ∧
      ∀ username password, decode (encode username password) = some (username, password) ↔
        ':' ∉ username.toList := by
  refine ⟨fun _ _ => Base64.decode_eq_some_iff, decode_base64_encode, ?_, ?_⟩
  · intro username password other secret
    constructor
    · intro same
      have read := decode_base64_encode username password
      rw [same, decode_base64_encode, Option.some_inj] at read
      exact (Utf8.encode_inj.mp read).symm
    · intro same
      rw [encode, same, encode]
  · intro username password
    rw [decode_encode]
    constructor
    · exact not_mem_of_divide?
    · intro plain
      rw [divide?_join plain, String.ofList_toList, String.ofList_toList]

end Credentials
end Countersign
