import Countersign.Config.Basic

/-!
# Keys of realms

The keys of different realms differ, and no key of a username is the key of a password.
-/

namespace Countersign
namespace Config

theorem userKey_inj {left right : String} : userKey left = userKey right ↔ left = right := by
  simp [userKey, String.append_left_inj, String.append_right_inj]

theorem passwordKey_inj {left right : String} :
    passwordKey left = passwordKey right ↔ left = right := by
  simp [passwordKey, String.append_left_inj, String.append_right_inj]

/-- The keys end in different letters. -/
theorem userKey_ne_passwordKey (left right : String) : userKey left ≠ passwordKey right := by
  intro same
  have last := congrArg (fun key => key.toList.reverse.head?) same
  simp [userKey, passwordKey] at last

/-- A key tells its realm. -/
theorem eq_of_key {key realm other : String}
    (of_realm : key = userKey realm ∨ key = passwordKey realm)
    (of_other : key = userKey other ∨ key = passwordKey other) : realm = other := by
  rcases of_realm with rfl | rfl
  · rcases of_other with same | same
    · exact userKey_inj.mp same
    · exact absurd same (userKey_ne_passwordKey realm other)
  · rcases of_other with same | same
    · exact absurd same.symm (userKey_ne_passwordKey other realm)
    · exact passwordKey_inj.mp same

end Config
end Countersign
