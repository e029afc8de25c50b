import Countersign.Config.Source
import Countersign.Proofs.Action

/-!
# Chains flatten

A chain whose members may be chains does what one chain of its leaves does: it asks them from left
to right, each in the world that the ones before it left, until one has a value or fails.  To say
which leaves are asked, each is made to write its place down before it does what it did.
-/

namespace Countersign

variable {World : Type}

/-- An outcome next to the places that have been written down by then. -/
def Outcome.withPlaces {State Value : Type} (outcome : Outcome State Value) (places : List Nat) :
    Outcome (State × List Nat) Value :=
  { result := outcome.result, state := (outcome.state, places), events := outcome.events }

namespace Config

variable {key : String} {world : World} {asked : Nat} {outcome : Outcome World (Option RawText)}
  {early late configs : List (Config World)}

/-! ## One chain -/

theorem first_cons_of_none {config : Config World}
    (ended : (config key world).result = .ok none) (configs : List (Config World)) :
    first (config :: configs) key world =
      (first configs key (config key world).state).after (config key world).events := by
  rw [first, Action.bind_of_ok ended]

theorem first_cons_of_ne {config : Config World}
    (ended : (config key world).result ≠ .ok none) (configs : List (Config World)) :
    first (config :: configs) key world = config key world := by
  rw [first]
  exact Action.bind_of_ne_none (fun _ => rfl) ended

theorem first_singleton (config : Config World) : first [config] = config := by
  funext key world
  by_cases ended : (config key world).result = .ok none
  · rw [first_cons_of_none ended]
    ext <;> simp [first, Action.pure_apply, Outcome.after, ended]
  · exact first_cons_of_ne ended []

/-- Of two chains in a row the second one is asked for what the first one has no value of. -/
theorem first_append_of_none (ended : (first early key world).result = .ok none)
    (late : List (Config World)) :
    first (early ++ late) key world =
      (first late key (first early key world).state).after (first early key world).events := by
  induction early generalizing world with
  | nil => rfl
  | cons config early induction =>
      by_cases head : (config key world).result = .ok none
      · rw [first_cons_of_none head] at ended ⊢
        rw [List.cons_append, first_cons_of_none head, induction ended, Outcome.after_after]
        rfl
      · rw [first_cons_of_ne head] at ended
        exact absurd ended head

/-- Of two chains in a row the second one is not asked for what the first one has a value of, or
fails at. -/
theorem first_append_of_ne (ended : (first early key world).result ≠ .ok none)
    (late : List (Config World)) :
    first (early ++ late) key world = first early key world := by
  induction early generalizing world with
  | nil => exact absurd rfl ended
  | cons config early induction =>
      by_cases head : (config key world).result = .ok none
      · rw [first_cons_of_none head] at ended
        rw [List.cons_append, first_cons_of_none head, first_cons_of_none head, induction ended]
      · rw [List.cons_append, first_cons_of_ne head, first_cons_of_ne head]

/-- A chain in a chain is like its members in its place. -/
theorem first_cons_first (early late : List (Config World)) :
    first (first early :: late) = first (early ++ late) := by
  funext key world
  by_cases ended : (first early key world).result = .ok none
  · rw [first_cons_of_none ended, first_append_of_none ended]
  · rw [first_cons_of_ne ended, first_append_of_ne ended]

/-- How a key is looked for in configurations in order, with how many of them are asked. -/
inductive Search (key : String) :
    List (Config World) → World → Nat → Outcome World (Option RawText) → Prop
  /-- No configuration is left. -/
  | exhausted (world : World) :
      Search key [] world 0 { result := .ok none, state := world, events := [] }
  /-- A configuration has a value or fails, and the others are not asked. -/
  | stopped {config : Config World} {configs : List (Config World)} {world : World} :
      (config key world).result ≠ .ok none →
      Search key (config :: configs) world 1 (config key world)
  /-- A configuration has no value, and the search goes on in the world that it left. -/
  | passed {config : Config World} {configs : List (Config World)} {world : World} {asked : Nat}
      {outcome : Outcome World (Option RawText)} :
      (config key world).result = .ok none →
      Search key configs (config key world).state asked outcome →
      Search key (config :: configs) world (asked + 1) (outcome.after (config key world).events)

theorem Search.asked_le (search : Search key configs world asked outcome) :
    asked ≤ configs.length := by
  induction search with
  | exhausted => exact Nat.le_refl 0
  | stopped => exact Nat.succ_le_succ (Nat.zero_le _)
  | passed _ _ induction => exact Nat.succ_le_succ induction

/-- A search that finds nothing has asked every configuration. -/
theorem Search.asked_eq (search : Search key configs world asked outcome)
    (nothing : outcome.result = .ok none) : asked = configs.length := by
  induction search with
  | exhausted => rfl
  | stopped answered => exact absurd nothing answered
  | passed _ _ induction => rw [induction nothing, List.length_cons]

/-! ## The places that are asked -/

/-- The configuration at a place that also writes the place down when it is asked. -/
def marked (place : Nat) (config : Config World) : Config (World × List Nat) := fun key => do
  Action.change fun (world, places) => (world, places ++ [place])
  (config key).within (·.1) fun whole world => (world, whole.2)

/-- Configurations in a row that write down when they are asked, the first of them at a place. -/
def allMarked (start : Nat) (configs : List (Config World)) : List (Config (World × List Nat)) :=
  configs.mapIdx fun index config => config.marked (start + index)

theorem marked_apply (place : Nat) (config : Config World) (key : String) (world : World)
    (past : List Nat) :
    config.marked place key (world, past) = (config key world).withPlaces (past ++ [place]) := by
  simp [marked, Action.bind_apply, Outcome.withPlaces]

theorem allMarked_append (start : Nat) (early late : List (Config World)) :
    allMarked start (early ++ late) =
      allMarked start early ++ allMarked (start + early.length) late := by
  simp only [allMarked, List.mapIdx_append, Nat.add_assoc, Nat.add_comm early.length]

theorem allMarked_cons (start : Nat) (config : Config World) (configs : List (Config World)) :
    allMarked start (config :: configs) =
      config.marked start :: allMarked (start + 1) configs :=
  allMarked_append start [config] configs

/-- A key is looked for in order, and the places of those that are asked are written down. -/
theorem first_search (configs : List (Config World)) (key : String) (world : World) :
    ∃ asked, Search key configs world asked (first configs key world) ∧
      ∀ start past, first (allMarked start configs) key (world, past) =
        (first configs key world).withPlaces (past ++ List.range' start asked) := by
  induction configs generalizing world with
  | nil =>
      refine ⟨0, .exhausted world, fun start past => ?_⟩
      rw [List.range'_zero, List.append_nil]
      rfl
  | cons config configs induction =>
      have marks := fun start past => marked_apply start config key world past
      by_cases ended : (config key world).result = .ok none
      · obtain ⟨asked, search, places⟩ := induction (config key world).state
        refine ⟨asked + 1, ?_, fun start past => ?_⟩
        · rw [first_cons_of_none ended]
          exact .passed ended search
        · have ended_marked : (config.marked start key (world, past)).result = .ok none := by
            rw [marks]
            exact ended
          rw [allMarked_cons, first_cons_of_none ended, first_cons_of_none ended_marked, marks]
          simp only [Outcome.withPlaces] at places ⊢
          rw [places, List.append_assoc, List.singleton_append, ← List.range'_succ]
          rfl
      · refine ⟨1, ?_, fun start past => ?_⟩
        · rw [first_cons_of_ne ended]
          exact .stopped ended
        · have ended_marked : (config.marked start key (world, past)).result ≠ .ok none := by
            rw [marks]
            exact ended
          rw [allMarked_cons, first_cons_of_ne ended, first_cons_of_ne ended_marked, marks]
          rfl

end Config

namespace Source

open Config (Search)

variable {members others : List (Source World)}

/-! ## Chains of chains -/

mutual

theorem get_eq_first_leaves : ∀ source : Source World, source.get = Config.first source.leaves
  | leaf config => (Config.first_singleton config).symm
  | chain members => firstValue_eq_first_allLeaves members

theorem firstValue_eq_first_allLeaves : ∀ sources : List (Source World),
    firstValue sources = Config.first (allLeaves sources)
  | [] => by
      funext key
      rfl
  | source :: sources => by
      funext key
      rw [allLeaves, ← Config.first_cons_first, firstValue, get_eq_first_leaves source,
        firstValue_eq_first_allLeaves sources]
      rfl

end

theorem allLeaves_eq_flatMap (sources : List (Source World)) :
    allLeaves sources = sources.flatMap leaves := by
  induction sources with
  | nil => rfl
  | cons source sources induction => rw [allLeaves, induction, List.flatMap_cons]

theorem get_chain (members : List (Source World)) :
    (chain members).get = Config.first (allLeaves members) :=
  firstValue_eq_first_allLeaves members

theorem allLeaves_map_leaf (configs : List (Config World)) :
    allLeaves (configs.map leaf) = configs := by
  induction configs with
  | nil => rfl
  | cons config configs induction =>
      rw [List.map_cons, allLeaves, induction, leaves, List.singleton_append]

theorem allLeaves_append_singleton (members : List (Source World)) (last : Source World) :
    allLeaves (members ++ [last]) = allLeaves members ++ last.leaves := by
  simp [allLeaves_eq_flatMap]

mutual

/-- The source whose leaves write down when they are asked, the first of them at a place. -/
def marked : Nat → Source World → Source (World × List Nat)
  | start, leaf config => leaf (config.marked start)
  | start, chain members => chain (allMarked start members)

/-- Sources in a row whose leaves write down when they are asked, the first of them at a place. -/
def allMarked : Nat → List (Source World) → List (Source (World × List Nat))
  | _, [] => []
  | start, source :: sources =>
      source.marked start :: allMarked (start + source.leaves.length) sources

end

mutual

theorem leaves_marked : ∀ (start : Nat) (source : Source World),
    (source.marked start).leaves = Config.allMarked start source.leaves
  | start, leaf config => by simp [marked, leaves, Config.allMarked]
  | start, chain members => allLeaves_allMarked start members

theorem allLeaves_allMarked : ∀ (start : Nat) (sources : List (Source World)),
    allLeaves (allMarked start sources) = Config.allMarked start (allLeaves sources)
  | _, [] => rfl
  | start, source :: sources => by
      rw [allMarked, allLeaves, allLeaves, leaves_marked start source,
        allLeaves_allMarked (start + source.leaves.length) sources, Config.allMarked_append]

end

theorem get_marked (start : Nat) (members : List (Source World)) :
    ((chain members).marked start).get =
      Config.first (Config.allMarked start (allLeaves members)) :=
  (get_eq_first_leaves _).trans (congrArg Config.first (leaves_marked start (chain members)))

/-- Whether some members have an empty chain more than others, at any depth. -/
inductive Pads : List (Source World) → List (Source World) → Prop
  /-- The empty chain is one of the members. -/
  | here (before after : List (Source World)) :
      Pads (before ++ after) (before ++ chain [] :: after)
  /-- The empty chain is somewhere in one of the members. -/
  | inside (before after : List (Source World)) {inner padded : List (Source World)} :
      Pads inner padded →
      Pads (before ++ chain inner :: after) (before ++ chain padded :: after)

theorem Pads.allLeaves_eq (pads : Pads members others) : allLeaves others = allLeaves members := by
  induction pads with
  | here before after => simp [allLeaves_eq_flatMap, leaves]
  | inside before after _ induction =>
      rw [allLeaves_eq_flatMap, allLeaves_eq_flatMap, List.flatMap_append, List.flatMap_append,
        List.flatMap_cons, List.flatMap_cons, leaves, leaves, induction]

/-- What can be relied on of a chain whose members may be chains. -/
structure IsFlat (members : List (Source World)) : Prop where
  /-- It does what one chain of its leaves does. -/
  flat : (chain members).get = (chain ((allLeaves members).map leaf)).get
  /-- The leaves are asked from left to right, each in the world that the ones before it left, up to
  the first one that has a value or fails, and no others are asked. -/
  asked : ∀ key world, ∃ asked ≤ (allLeaves members).length,
    Search key (allLeaves members) world asked ((chain members).get key world) ∧
      ∀ past, ((chain members).marked 0).get key (world, past) =
        ((chain members).get key world).withPlaces (past ++ List.range asked)
  /-- If there is no value, every leaf has been asked, and as often as it occurs. -/
  exhausted : ∀ key world, ((chain members).get key world).result = .ok none →
    ∀ past, ((chain members).marked 0).get key (world, past) =
      ((chain members).get key world).withPlaces
        (past ++ List.range (allLeaves members).length)
  /-- An empty chain more, wherever it is, changes neither what is done nor which leaves are
  asked. -/
  padded : ∀ others, Pads members others →
    (chain others).get = (chain members).get ∧
      ((chain others).marked 0).get = ((chain members).marked 0).get
  /-- One more member at the end is not asked if there is a value or a failure without it. -/
  settled : ∀ last key world, ((chain members).get key world).result ≠ .ok none →
    (chain (members ++ [last])).get key world = (chain members).get key world
  /-- One more member at the end has the last word if there is no value without it. -/
  passed : ∀ last key world, ((chain members).get key world).result = .ok none →
    (chain (members ++ [last])).get key world =
      (last.get key ((chain members).get key world).state).after
        ((chain members).get key world).events

theorem chain_asked (members : List (Source World)) (key : String) (world : World) :
    ∃ asked ≤ (allLeaves members).length,
      Search key (allLeaves members) world asked ((chain members).get key world) ∧
        ∀ past, ((chain members).marked 0).get key (world, past) =
          ((chain members).get key world).withPlaces (past ++ List.range asked) := by
  obtain ⟨asked, search, places⟩ := Config.first_search (allLeaves members) key world
  refine ⟨asked, search.asked_le, ?_, fun past => ?_⟩
  · rwa [get_chain]
  · rw [get_marked, get_chain, places, List.range_eq_range']

theorem isFlat (members : List (Source World)) : IsFlat members where
  flat := by rw [get_chain, get_chain, allLeaves_map_leaf]
  asked := chain_asked members
  exhausted key world nothing past := by
    obtain ⟨asked, -, search, places⟩ := chain_asked members key world
    rw [places, search.asked_eq nothing]
  padded others pads := by
    constructor
    · rw [get_chain, get_chain, pads.allLeaves_eq]
    · rw [get_marked, get_marked, pads.allLeaves_eq]
  settled last key world ended := by
    rw [get_chain] at ended
    rw [get_chain, get_chain, allLeaves_append_singleton, Config.first_append_of_ne ended]
  passed last key world ended := by
    rw [get_chain] at ended
    rw [get_chain, get_chain, allLeaves_append_singleton, Config.first_append_of_none ended,
      get_eq_first_leaves last]

end Source
end Countersign
