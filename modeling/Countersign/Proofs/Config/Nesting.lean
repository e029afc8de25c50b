import Mathlib.Data.List.Perm.Subperm
import Mathlib.Logic.Relation
import Countersign.Proofs.Config.Chains
import Countersign.Proofs.Config.Providers

/-!
# Chains of providers flatten

A chain of providers names its members, so that what it is made of is read off the surroundings, and
it may contain itself.  One that does not is a tree: no way down passes a chain twice, hence none is
longer than there are providers, and reading to that depth reaches every provider in it.
-/

namespace Countersign

open Countersign.Action (Keeps)

/-- The members of a provider, if it is a chain. -/
def Provider.members? : Provider → Option (List Nat)
  | chain members => some members
  | _ => none

theorem Provider.members?_eq_some {provider : Provider} {members : List Nat} :
    provider.members? = some members ↔ provider = .chain members := by
  cases provider <;> simp [members?]

theorem Provider.members?_eq_none {provider : Provider} :
    provider.members? = none ↔ ∀ members, provider ≠ .chain members := by
  cases provider <;> simp [members?]

theorem Provider.AfterRead.members?_eq {provider read : Provider}
    (after : provider.AfterRead read) : read.members? = provider.members? := by
  cases after <;> rfl

namespace Surroundings

open Relation (ReflTransGen TransGen)

variable {surroundings before after : Surroundings} {number inner outer depth : Nat}
  {members above : List Nat}

/-- The members of a provider by its number, if it is a chain. -/
def members? (surroundings : Surroundings) (number : Nat) : Option (List Nat) :=
  (surroundings.providers number).members?

/-- Whether a provider is a member of another one. -/
def IsMember (surroundings : Surroundings) (outer inner : Nat) : Prop :=
  ∃ members, surroundings.members? outer = some members ∧ inner ∈ members

/-- Whether a provider is made of providers that there are, and of no chain that contains itself. -/
structure IsTree (surroundings : Surroundings) (number : Nat) : Prop where
  acyclic : ∀ inner, ReflTransGen surroundings.IsMember number inner →
    ¬ TransGen surroundings.IsMember inner inner
  numbered : ∀ inner, ReflTransGen surroundings.IsMember number inner →
    surroundings.members? inner ≠ none → inner < surroundings.count

/-- The providers other than chains that a provider is made of, from left to right, if no way down
is longer than the given depth. -/
def spread (surroundings : Surroundings) : Nat → Nat → List Nat
  | 0, number => [number]
  | depth + 1, number =>
      match surroundings.members? number with
      | some members => members.flatMap (surroundings.spread depth)
      | none => [number]

/-- The providers other than chains that a provider is made of, from left to right. -/
def leaves (surroundings : Surroundings) (number : Nat) : List Nat :=
  surroundings.spread surroundings.count number

theorem spread_of_chain (isChain : surroundings.members? number = some members) (depth : Nat) :
    surroundings.spread (depth + 1) number = members.flatMap (surroundings.spread depth) := by
  rw [spread, isChain]

theorem spread_of_single (single : surroundings.members? number = none) (depth : Nat) :
    surroundings.spread depth number = [number] := by
  cases depth with
  | zero => rfl
  | succ depth => rw [spread, single]

theorem leaves_of_single (single : surroundings.members? number = none) :
    surroundings.leaves number = [number] :=
  spread_of_single single _

/-! ## Ways down -/

theorem IsTree.of_member (tree : surroundings.IsTree outer)
    (member : surroundings.IsMember outer inner) : surroundings.IsTree inner where
  acyclic below way := tree.acyclic below (.head member way)
  numbered below way := tree.numbered below (.head member way)

/-- Whether chains are on a way down to a provider, none of them twice. -/
structure IsWay (surroundings : Surroundings) (above : List Nat) (number : Nat) : Prop where
  distinct : above.Nodup
  bounded : ∀ outer ∈ above, outer < surroundings.count
  leads : ∀ outer ∈ above, TransGen surroundings.IsMember outer number

theorem isWay_nil (surroundings : Surroundings) (number : Nat) : surroundings.IsWay [] number where
  distinct := .nil
  bounded := nofun
  leads := nofun

/-- A way down a tree does not come back to a chain. -/
theorem IsWay.nodup_cons (way : surroundings.IsWay above number)
    (tree : surroundings.IsTree number) : (number :: above).Nodup :=
  List.nodup_cons.mpr
    ⟨fun again => tree.acyclic number .refl (way.leads number again), way.distinct⟩

theorem IsWay.bounded_cons (way : surroundings.IsWay above number)
    (tree : surroundings.IsTree number) (isChain : surroundings.members? number = some members) :
    ∀ outer ∈ number :: above, outer < surroundings.count :=
  List.forall_mem_cons.mpr ⟨tree.numbered number .refl (by simp [isChain]), way.bounded⟩

theorem IsWay.cons (way : surroundings.IsWay above number) (tree : surroundings.IsTree number)
    (isChain : surroundings.members? number = some members) (isMember : inner ∈ members) :
    surroundings.IsWay (number :: above) inner where
  distinct := way.nodup_cons tree
  bounded := way.bounded_cons tree isChain
  leads := by
    have last : surroundings.IsMember number inner := ⟨members, isChain, isMember⟩
    refine List.forall_mem_cons.mpr ⟨.single last, fun outer passed => ?_⟩
    exact (way.leads outer passed).tail last

/-- A way down a tree that ends at a chain passes fewer chains than there are providers. -/
theorem IsWay.length_lt (way : surroundings.IsWay above number) (tree : surroundings.IsTree number)
    (isChain : surroundings.members? number = some members) :
    above.length < surroundings.count := by
  have among : number :: above ⊆ List.range surroundings.count := fun outer passed =>
    List.mem_range.mpr (way.bounded_cons tree isChain outer passed)
  have shorter := (List.subperm_of_subset (way.nodup_cons tree) among).length_le
  rwa [List.length_cons, List.length_range] at shorter

/-- Where a way down has passed all but so many chains, that depth reaches every leaf. -/
theorem single_of_mem_spread (tree : surroundings.IsTree number)
    (way : surroundings.IsWay above number) (deep : surroundings.count ≤ above.length + depth) :
    ∀ leaf ∈ surroundings.spread depth number, surroundings.members? leaf = none := by
  induction depth generalizing number above with
  | zero =>
      intro leaf reached
      obtain rfl := List.mem_singleton.mp reached
      cases made : surroundings.members? leaf with
      | none => rfl
      | some members => exact absurd (way.length_lt tree made) (Nat.not_lt.mpr deep)
  | succ depth induction =>
      intro leaf reached
      cases made : surroundings.members? number with
      | none =>
          rw [spread_of_single made, List.mem_singleton] at reached
          rwa [reached]
      | some members =>
          rw [spread_of_chain made] at reached
          obtain ⟨member, isMember, below⟩ := List.mem_flatMap.mp reached
          have deep_below : surroundings.count ≤ (number :: above).length + depth := by
            rw [List.length_cons]
            omega
          exact induction (tree.of_member ⟨members, made, isMember⟩) (way.cons tree made isMember)
            deep_below leaf below

theorem IsTree.single_of_mem_leaves (tree : surroundings.IsTree number) :
    ∀ leaf ∈ surroundings.leaves number, surroundings.members? leaf = none :=
  single_of_mem_spread tree (surroundings.isWay_nil number) (Nat.le_add_left _ _)

/-- Once there are no chains left, looking deeper does not find anything else. -/
theorem spread_succ_of_single
    (single : ∀ leaf ∈ surroundings.spread depth number, surroundings.members? leaf = none) :
    surroundings.spread (depth + 1) number = surroundings.spread depth number := by
  induction depth generalizing number with
  | zero => exact spread_of_single (single number (List.mem_singleton_self number)) 1
  | succ depth induction =>
      cases made : surroundings.members? number with
      | none => rw [spread_of_single made, spread_of_single made]
      | some members =>
          rw [spread_of_chain made] at single ⊢
          rw [spread_of_chain made]
          refine List.flatMap_congr fun member isMember => induction fun leaf below => ?_
          exact single leaf (List.mem_flatMap.mpr ⟨member, isMember, below⟩)

/-- A chain in a tree is made of what its members are made of. -/
theorem IsTree.leaves_of_chain (tree : surroundings.IsTree number)
    (isChain : surroundings.members? number = some members) :
    surroundings.leaves number = members.flatMap surroundings.leaves := by
  have inhabited : 0 < surroundings.count :=
    Nat.zero_lt_of_lt (tree.numbered number .refl (by simp [isChain]))
  obtain ⟨depth, counted⟩ := Nat.exists_eq_add_one.mpr inhabited
  have single := tree.single_of_mem_leaves
  unfold leaves at single ⊢
  rw [counted, spread_of_chain isChain] at single ⊢
  refine List.flatMap_congr fun member isMember => (spread_succ_of_single fun leaf below => ?_).symm
  exact single leaf (List.mem_flatMap.mpr ⟨member, isMember, below⟩)

/-! ## Chains of earlier providers -/

/-- Whether every chain is made of providers that were there before it. -/
def IsBuiltUp (surroundings : Surroundings) : Prop :=
  ∀ outer members, surroundings.members? outer = some members →
    outer < surroundings.count ∧ ∀ inner ∈ members, inner < outer

theorem isBuiltUp_start (loader : Loader) (environment : Environment) (files : Files) :
    (start loader environment files).IsBuiltUp :=
  nofun

theorem IsBuiltUp.addProvider (built : surroundings.IsBuiltUp) {provider : Provider}
    (earlier : ∀ members, provider.members? = some members →
      ∀ inner ∈ members, inner < surroundings.count) :
    (surroundings.addProvider provider).IsBuiltUp := by
  refine assign_forall
    (fun outer (provider : Provider) => ∀ members, provider.members? = some members →
      outer < surroundings.count + 1 ∧ ∀ inner ∈ members, inner < outer) ?_ ?_
  · exact fun members made => ⟨Nat.lt_succ_self _, earlier members made⟩
  · exact fun outer _ members made => ⟨Nat.lt_succ_of_lt (built outer members made).1,
      (built outer members made).2⟩

/-- Chains of earlier providers cannot contain themselves. -/
theorem IsBuiltUp.isTree (built : surroundings.IsBuiltUp) (number : Nat) :
    surroundings.IsTree number where
  acyclic inner _ again := by
    have earlier : ∀ {below}, TransGen surroundings.IsMember inner below → below < inner := by
      intro below way
      induction way with
      | single member =>
          obtain ⟨members, made, isMember⟩ := member
          exact (built _ members made).2 _ isMember
      | tail _ member induction =>
          obtain ⟨members, made, isMember⟩ := member
          exact Nat.lt_trans ((built _ members made).2 _ isMember) induction
    exact Nat.lt_irrefl inner (earlier again)
  numbered inner _ isChain := by
    obtain ⟨members, made⟩ := Option.ne_none_iff_exists'.mp isChain
    exact (built inner members made).1

/-! ## Reading -/

theorem leaves_source (surroundings : Surroundings) (depth number : Nat) :
    (surroundings.source depth number).leaves = (surroundings.spread depth number).map read := by
  induction depth generalizing number with
  | zero => rfl
  | succ depth induction =>
      rw [source]
      split
      next members isChain =>
        have made : surroundings.members? number = some members :=
          Provider.members?_eq_some.mpr isChain
        rw [Source.leaves, Source.allLeaves_eq_flatMap, List.flatMap_map, spread_of_chain made,
          List.map_flatMap]
        exact List.flatMap_congr fun member _ => induction member
      next unlike =>
        have single : surroundings.members? number = none := Provider.members?_eq_none.mpr unlike
        rw [spread_of_single single]
        rfl

/-- A provider is read like one chain of its leaves. -/
theorem config_eq_first_leaves (surroundings : Surroundings) (number : Nat) (key : String) :
    config number key surroundings =
      Config.first ((surroundings.leaves number).map read) key surroundings := by
  have flat : surroundings.value surroundings.count number =
      Config.first ((surroundings.leaves number).map read) := by
    rw [value_eq_get_source, Source.get_eq_first_leaves, leaves_source]
    rfl
  exact congrFun (congrFun flat key) surroundings

/-- Providers with the same leaves are read alike, however their chains are nested. -/
theorem config_eq_of_leaves_eq (same : surroundings.leaves outer = surroundings.leaves number)
    (key : String) : config outer key surroundings = config number key surroundings := by
  rw [config_eq_first_leaves, config_eq_first_leaves, same]

/-- Whether surroundings have the same chains. -/
structure SameChains (before after : Surroundings) : Prop where
  count : after.count = before.count
  members? : after.members? = before.members?

theorem SameChains.leaves_eq (same : SameChains before after) : after.leaves = before.leaves := by
  have spread_eq : ∀ depth number, after.spread depth number = before.spread depth number := by
    intro depth
    induction depth with
    | zero => exact fun _ => rfl
    | succ depth induction =>
        intro number
        rw [spread, spread, same.members?, funext induction]
  funext number
  rw [leaves, leaves, same.count, spread_eq]

theorem SameChains.isTree (same : SameChains before after) (tree : before.IsTree number) :
    after.IsTree number := by
  have member_eq : after.IsMember = before.IsMember := by
    funext outer inner
    rw [IsMember, IsMember, same.members?]
  constructor
  · rw [member_eq]
    exact tree.acyclic
  · rw [member_eq, same.members?, same.count]
    exact tree.numbered

/-- Reading makes nothing a chain, and no chain another one. -/
theorem read_keeps_chains (before : Surroundings) (number : Nat) (key : String) :
    (read number key).Keeps (SameChains before) (fun _ => True) fun _ => True := by
  refine read_keeps_of_afterRead (fun _ => trivial) fun surroundings same provider after => ?_
  refine { count := same.count, members? := ?_ }
  rw [← same.members?]
  funext other
  exact assign_forall
    (fun asked (provider : Provider) => provider.members? = surroundings.members? asked)
    after.members?_eq (fun _ _ => rfl) other

theorem config_keeps_chains (before : Surroundings) (number : Nat) (key : String) :
    (config number key).Keeps (SameChains before) (fun _ => True) fun _ => True :=
  Keeps.current.bind fun _ _ =>
    value_keeps_of_read trivial
      (fun other (_ : True) => read_keeps_chains before other key) (fun _ _ _ _ _ _ => trivial)
      trivial _

theorem sameChains_config (surroundings : Surroundings) (number : Nat) (key : String) :
    SameChains surroundings (config number key surroundings).state :=
  (config_keeps_chains surroundings number key surroundings { count := rfl, members? := rfl }).state

/-! ## Trees of providers -/

/-- What can be relied on of a provider that is a tree. -/
structure IsFlat (surroundings : Surroundings) (number : Nat) : Prop where
  /-- None of its leaves is a chain. -/
  single : ∀ leaf ∈ surroundings.leaves number, ∀ members,
    surroundings.providers leaf ≠ .chain members
  /-- What is not a chain is its own leaf. -/
  alone : (∀ members, surroundings.providers number ≠ .chain members) →
    surroundings.leaves number = [number]
  /-- A chain has the leaves of its members, in their order and as often as they occur. -/
  unfolds : ∀ members, surroundings.providers number = .chain members →
    surroundings.leaves number = members.flatMap surroundings.leaves
  /-- It is a chain of chains, of which its leaves are the leaves. -/
  tree : (surroundings.source surroundings.count number).leaves =
      (surroundings.leaves number).map read ∧
    ∀ key, config number key surroundings =
      (surroundings.source surroundings.count number).get key surroundings
  /-- The leaves are read from left to right, each in the surroundings that the ones before it left,
  up to the first one that has a value or fails. -/
  asked : ∀ key, ∃ asked ≤ (surroundings.leaves number).length,
    Config.Search key ((surroundings.leaves number).map read) surroundings asked
      (config number key surroundings)
  /-- Providers with the same leaves do the same, however their chains are nested. -/
  alike : ∀ other, surroundings.leaves other = surroundings.leaves number →
    ∀ key, config other key surroundings = config number key surroundings
  /-- One chain of the leaves does the same. -/
  flat : ∀ other, surroundings.IsTree other →
    surroundings.providers other = .chain (surroundings.leaves number) →
    ∀ key, config other key surroundings = config number key surroundings
  /-- One more member without leaves makes no difference, wherever it is. -/
  padded : ∀ other early empty late, surroundings.providers number = .chain (early ++ late) →
    surroundings.IsTree other → surroundings.providers other = .chain (early ++ empty :: late) →
    surroundings.leaves empty = [] →
    ∀ key, config other key surroundings = config number key surroundings
  /-- One more member at the end is not asked if there is a value or a failure without it. -/
  settled : ∀ other members last, surroundings.providers number = .chain members →
    surroundings.IsTree other → surroundings.providers other = .chain (members ++ [last]) →
    ∀ key, (config number key surroundings).result ≠ .ok none →
      config other key surroundings = config number key surroundings
  /-- One more member at the end has the last word if there is no value without it. -/
  passed : ∀ other members last, surroundings.providers number = .chain members →
    surroundings.IsTree other → surroundings.providers other = .chain (members ++ [last]) →
    ∀ key, (config number key surroundings).result = .ok none →
      config other key surroundings =
        (config last key (config number key surroundings).state).after
          (config number key surroundings).events
  /-- It is still a tree of the same leaves after it has been asked. -/
  lasts : ∀ key, (config number key surroundings).state.IsTree number ∧
    (config number key surroundings).state.leaves number = surroundings.leaves number

theorem IsTree.leaves_append (tree : surroundings.IsTree number) (grown : surroundings.IsTree outer)
    (isChain : surroundings.providers number = .chain members)
    (isGrown : surroundings.providers outer = .chain (members ++ [inner])) :
    surroundings.leaves outer = surroundings.leaves number ++ surroundings.leaves inner := by
  rw [grown.leaves_of_chain (Provider.members?_eq_some.mpr isGrown),
    tree.leaves_of_chain (Provider.members?_eq_some.mpr isChain), List.flatMap_append,
    List.flatMap_singleton]

theorem IsTree.isFlat (tree : surroundings.IsTree number) : surroundings.IsFlat number where
  single leaf reached := Provider.members?_eq_none.mp (tree.single_of_mem_leaves leaf reached)
  alone single := leaves_of_single (Provider.members?_eq_none.mpr single)
  unfolds members isChain := tree.leaves_of_chain (Provider.members?_eq_some.mpr isChain)
  tree := ⟨leaves_source surroundings surroundings.count number, fun key =>
    congrFun (congrFun (value_eq_get_source surroundings surroundings.count number) key)
      surroundings⟩
  asked key := by
    obtain ⟨asked, search, -⟩ :=
      Config.first_search ((surroundings.leaves number).map read) key surroundings
    rw [config_eq_first_leaves]
    exact ⟨asked, by simpa using search.asked_le, search⟩
  alike _ same := config_eq_of_leaves_eq same
  flat other flat isChain := by
    refine config_eq_of_leaves_eq ?_
    rw [flat.leaves_of_chain (Provider.members?_eq_some.mpr isChain)]
    refine (List.flatMap_congr fun leaf reached => ?_).trans (List.flatMap_singleton' _)
    exact leaves_of_single (tree.single_of_mem_leaves leaf reached)
  padded other early empty late isChain padded isPadded no_leaves := by
    refine config_eq_of_leaves_eq ?_
    rw [padded.leaves_of_chain (Provider.members?_eq_some.mpr isPadded),
      tree.leaves_of_chain (Provider.members?_eq_some.mpr isChain), List.flatMap_append,
      List.flatMap_append, List.flatMap_cons, no_leaves, List.nil_append]
  settled other members last isChain grown isGrown key ended := by
    rw [config_eq_first_leaves] at ended
    rw [config_eq_first_leaves, config_eq_first_leaves,
      tree.leaves_append grown isChain isGrown, List.map_append, Config.first_append_of_ne ended]
  passed other members last isChain grown isGrown key ended := by
    have same := (sameChains_config surroundings number key).leaves_eq
    rw [config_eq_first_leaves _ last, same]
    rw [config_eq_first_leaves] at ended
    rw [config_eq_first_leaves, config_eq_first_leaves,
      tree.leaves_append grown isChain isGrown, List.map_append, Config.first_append_of_none ended]
  lasts key :=
    have same := sameChains_config surroundings number key
    ⟨same.isTree tree, congrFun same.leaves_eq number⟩

/-- Chains flatten, whatever their leaves are and do, and the providers that are trees of chains
are such chains. -/
theorem chains_areFlat :
    (∀ {World : Type} (members : List (Source World)), Source.IsFlat members) ∧
      ∀ (surroundings : Surroundings) (number : Nat), surroundings.IsTree number →
        surroundings.IsFlat number :=
  ⟨Source.isFlat, fun _ _ tree => tree.isFlat⟩

/-- A recorder, a provider whose first answer fails, an empty chain, a chain with the recorder on
both sides of the empty one, a chain of that with the other two, and one chain of all their
leaves. -/
def nested : Surroundings :=
  [.recorder .empty [], .faulty (.ofList [("a", .ofText "")]) "a" "down" 1, .chain [],
    .chain [0, 2, 0], .chain [3, 1, 0], .chain [0, 0, 1, 0]].foldl addProvider
      (start Environment.loader .empty .empty)

theorem isBuiltUp_nested : nested.IsBuiltUp := by
  refine .addProvider (.addProvider (.addProvider (.addProvider (.addProvider (.addProvider
    (isBuiltUp_start _ .empty .empty) ?_) ?_) ?_) ?_) ?_) ?_
  all_goals rintro _ ⟨⟩
  all_goals decide

/-- Chains in chains, one of them empty, fail where one chain of their leaves does. -/
theorem chains_areFlat_nested :
    (nested.IsTree 4 ∧ nested.leaves 4 = [0, 0, 1, 0]) ∧
      (config 4 "a" nested).result = .error (.broken "down") ∧
      ∀ key, config 5 key nested = config 4 key nested := by
  have tree := isBuiltUp_nested.isTree 4
  have flat := chains_areFlat.2 nested 4 tree
  exact ⟨⟨tree, rfl⟩, rfl, flat.flat 5 (isBuiltUp_nested.isTree 5) rfl⟩

end Surroundings
end Countersign
