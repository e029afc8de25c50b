/-!
# Tables

A table holds at most one value for each key.  Inserting replaces the value that the key had, so a
table is told from another by `find?` alone.
-/

namespace Countersign

/-- A finite assignment of values to keys. -/
structure Table (Key Value : Type) where
  /-- The assigned pairs, latest insertion first. -/
  entries : List (Key × Value)
  deriving DecidableEq, Repr

namespace Table

variable {Key Value : Type} [DecidableEq Key]

/-- The table without keys. -/
def empty : Table Key Value :=
  ⟨[]⟩

/-- The value of a key. -/
def find? (table : Table Key Value) (key : Key) : Option Value :=
  (table.entries.find? fun entry => entry.1 = key).map (·.2)

/-- The table without a key. -/
def erase (table : Table Key Value) (key : Key) : Table Key Value :=
  ⟨table.entries.filter fun entry => entry.1 ≠ key⟩

/-- The table in which a key has a new value. -/
def insert (table : Table Key Value) (key : Key) (value : Value) : Table Key Value :=
  ⟨(key, value) :: (table.erase key).entries⟩

/-- The table of a list of pairs, in which a later pair replaces an earlier one. -/
def ofList (pairs : List (Key × Value)) : Table Key Value :=
  pairs.foldl (fun table pair => table.insert pair.1 pair.2) empty

/-- Whether a key has a value. -/
def contains (table : Table Key Value) (key : Key) : Bool :=
  (table.find? key).isSome

@[simp]
theorem find?_empty (key : Key) : (empty : Table Key Value).find? key = none := rfl

theorem find?_erase (table : Table Key Value) (key other : Key) :
    (table.erase key).find? other = if other = key then none else table.find? other := by
  obtain ⟨entries⟩ := table
  simp only [find?, erase]
  induction entries with
  | nil => simp
  | cons entry entries induction =>
      by_cases entry_key : entry.1 = key
      · by_cases entry_other : entry.1 = other
        · simp_all
        · rw [List.filter_cons_of_neg (by simp [entry_key]), induction,
            List.find?_cons_of_neg (by simp [entry_other])]
      · rw [List.filter_cons_of_pos (by simp [entry_key])]
        by_cases entry_other : entry.1 = other
        · simp_all
        · rw [List.find?_cons_of_neg (by simp [entry_other]), induction,
            List.find?_cons_of_neg (by simp [entry_other])]

theorem find?_insert (table : Table Key Value) (key other : Key) (value : Value) :
    (table.insert key value).find? other =
      if other = key then some value else table.find? other := by
  by_cases equal : key = other
  · subst equal
    simp [find?, insert]
  · have erased := find?_erase table key other
    have different : ¬other = key := fun same => equal same.symm
    simp only [find?, insert, different, if_false] at erased ⊢
    rw [List.find?_cons_of_neg (by simp [equal]), erased]

@[simp]
theorem find?_insert_self (table : Table Key Value) (key : Key) (value : Value) :
    (table.insert key value).find? key = some value := by
  simp [find?_insert]

@[simp]
theorem find?_erase_self (table : Table Key Value) (key : Key) :
    (table.erase key).find? key = none := by
  simp [find?_erase]

end Table
end Countersign
