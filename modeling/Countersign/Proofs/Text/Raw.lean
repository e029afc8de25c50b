import Countersign.Config.Variable

/-!
# Which raw texts are texts

A raw text is refused exactly if there is a surrogate in it.  What is not refused is a text, and a
text is neither refused nor changed by being kept.
-/

namespace Countersign

namespace CodePoint

@[simp]
theorem isSurrogate_plain (char : Char) : (plain char).isSurrogate = false := rfl

@[simp]
theorem isSurrogate_surrogate (place : Fin 0x800) : (surrogate place).isSurrogate = true := rfl

end CodePoint

namespace RawText

theorem faultFrom_eq_none {refuses : CodePoint → Bool} {points : List CodePoint}
    {position : Nat} :
    faultFrom refuses position points = none ↔ ∀ point ∈ points, refuses point = false := by
  induction points generalizing position with
  | nil => simp [faultFrom]
  | cons point points induction =>
      cases refused : refuses point with
      | true => simp [faultFrom, refused]
      | false => simp [faultFrom, refused, induction]

theorem isText_iff {raw : RawText} :
    raw.isText ↔ ∀ point ∈ raw.points, point.isSurrogate = false := by
  simp [isText]

theorem fault?_eq_none {raw : RawText} : raw.fault? = none ↔ raw.isText := by
  rw [fault?, faultFrom_eq_none, isText_iff]

/-- What comes behind a refused code point and a character makes no difference to the refusal. -/
theorem faultFrom_append {points : List CodePoint}
    (refused : ∃ point ∈ points, point.isSurrogate) (char : Char) (left right : List CodePoint)
    (position : Nat) :
    faultFrom CodePoint.isSurrogate position (points ++ .plain char :: left) =
      faultFrom CodePoint.isSurrogate position (points ++ .plain char :: right) := by
  have stopped (rest : List CodePoint) :
      (rest ++ .plain char :: left).takeWhile CodePoint.isSurrogate =
        (rest ++ .plain char :: right).takeWhile CodePoint.isSurrogate := by
    induction rest with
    | nil => rfl
    | cons point rest induction =>
        cases point <;> simp [List.takeWhile_cons, induction]
  induction points generalizing position with
  | nil =>
      obtain ⟨_, isMember, -⟩ := refused
      cases isMember
  | cons point points induction =>
      cases point with
      | surrogate place => simp [faultFrom, stopped]
      | plain other =>
          have later : ∃ point ∈ points, point.isSurrogate := by simpa using refused
          simpa [faultFrom] using induction later (position + 1)

theorem isText_append {left right : RawText} :
    (left ++ right).isText ↔ left.isText ∧ right.isText := by
  simp only [isText_iff]
  exact List.forall_mem_append

@[simp]
theorem isText_ofText (text : String) : (ofText text).isText := by
  simp [isText_iff, ofText]

@[simp]
theorem text_ofText (text : String) : (ofText text).text = text := by
  simp [ofText, RawText.text, List.filterMap_map, Function.comp_def, CodePoint.char?]

/-- A raw text without surrogates is the text of its characters. -/
theorem ofText_text {raw : RawText} (isText : raw.isText) : ofText raw.text = raw := by
  obtain ⟨points⟩ := raw
  rw [isText_iff] at isText
  simp only [ofText, RawText.text, String.toList_ofList, RawText.mk.injEq]
  induction points with
  | nil => rfl
  | cons point points induction =>
      obtain ⟨first, rest⟩ := List.forall_mem_cons.mp isText
      cases point with
      | surrogate place => cases first
      | plain char =>
          have kept : (CodePoint.plain char :: points).filterMap CodePoint.char? =
              char :: points.filterMap CodePoint.char? := rfl
          rw [kept, List.map_cons, induction rest]

theorem ofText_inj {left right : String} : ofText left = ofText right ↔ left = right :=
  ⟨fun same => by rw [← text_ofText left, same, text_ofText], fun same => by rw [same]⟩

end RawText

namespace Variable

@[simp]
theorem refusal?_ofText (text : String) : refusal? (.ofText text) = none := by
  rw [refusal?, RawText.faultFrom_eq_none]
  simp [RawText.ofText, CodePoint.bytes?]

@[simp]
theorem kept_ofText (text : String) : kept (.ofText text) = .ofText text :=
  if_pos (RawText.isText_ofText text)

end Variable
end Countersign
