import Countersign.Config.Basic

/-!
# Chains of configurations

A chain asks its members in order and answers with the first value it gets; an empty text is a
value.  A member may itself be a chain.
-/

namespace Countersign

/-- A configuration made of configurations. -/
inductive Source (World : Type) where
  /-- A single configuration. -/
  | leaf (config : Config World)
  /-- Several sources in order of priority. -/
  | chain (members : List (Source World))

namespace Source

variable {World : Type}

mutual

/-- The value of a key in a source. -/
def get : Source World → Config World
  | leaf config, key => config key
  | chain members, key => firstValue members key

/-- The value of a key in the first of several sources that has one. -/
def firstValue : List (Source World) → Config World
  | [], _ => pure none
  | source :: sources, key => do
      match ← source.get key with
      | some value => pure (some value)
      | none => firstValue sources key

end

theorem firstValue_eq_first (sources : List (Source World)) (key : String) :
    firstValue sources key = Config.first (sources.map get) key := by
  induction sources with
  | nil => rfl
  | cons source sources induction =>
      rw [firstValue, List.map_cons, Config.first]
      refine congrArg (source.get key >>= ·) (funext fun value => ?_)
      cases value <;> simp [induction]

mutual

/-- The single configurations of a source, from left to right. -/
def leaves : Source World → List (Config World)
  | leaf config => [config]
  | chain members => allLeaves members

/-- The single configurations of several sources, from left to right. -/
def allLeaves : List (Source World) → List (Config World)
  | [] => []
  | source :: sources => source.leaves ++ allLeaves sources

end

end Source
end Countersign
