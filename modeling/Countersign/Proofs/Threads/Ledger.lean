import Mathlib.Data.List.Nodup
import Countersign.Proofs.Threads.LookUps

/-!
# The books of several resolvers

Resolvers over one cache look realms up each under its own lock, so one may store a realm while
another is looking it up.  The books hold who has asked for which key and who has stored what; with
reliable configurations no resolver asks twice for a key of a sure realm or stores such a realm
twice.
-/

namespace Countersign
namespace Threads

variable {World : Type}

namespace Work

/-- The key that is asked for in a turn under the lock. -/
def asks : Work World → Option String
  | askUsername realm _ => some (Config.userKey realm)
  | askPassword realm _ _ => some (Config.passwordKey realm)
  | look _ _ | store _ _ | remove _ | removeAll | leave _ => none

variable {sure : String → Prop} {realm key : String} {work : Work World}

/-- Whether a turn asks for a key in looking a realm up, which goes on. -/
structure Asking (realm key : String) (work next : Work World) : Prop where
  asks : work.asks = some key
  of_realm : key = Config.userKey realm ∨ key = Config.passwordKey realm
  isLooking : work.IsLookingUp realm
  goes : next.IsLookingUp realm
  fresh : ¬work.HasAsked realm key
  past : next.HasAsked realm key
  /-- What the look-up has come past it stays past. -/
  stays : ∀ other, work.HasAsked realm other → next.HasAsked realm other
  begun : work.HasAsked realm (Config.userKey realm) ∨ key = Config.userKey realm
  idle : ∀ other entry, work ≠ store other entry

theorem IsLookingUp.unique {other : String} (left : work.IsLookingUp realm)
    (right : work.IsLookingUp other) : realm = other := by
  cases work with
  | askUsername | askPassword | store => exact left.symm.trans right
  | look | remove | removeAll | leave => cases left

/-- With reliable configurations a turn that asks for a key goes on with the look-up unless the
realm is not a sure one, and leaves what is known alone. -/
theorem Progress.asking {fallback : Option (Config World)} {vault after : Vault World}
    {next : Work World} {keys : List String}
    (progress : Progress sure fallback vault work next after keys) (asks : work.asks = some key) :
    after.cache.entries = vault.cache.entries ∧
      ∃ realm, Asking realm key work next ∨
        ¬sure realm ∧ work.IsLookingUp realm ∧ ∃ result, next = leave result := by
  cases progress with
  | known | unknown | unconfigured | stored | removed | removedAll => cases asks
  | username realm username config after given same =>
      cases asks
      exact ⟨same, realm, .inl
        { asks := rfl, of_realm := .inl rfl, isLooking := rfl, goes := rfl, fresh := id
          past := ⟨rfl, rfl⟩, stays := nofun, begun := .inr rfl, idle := nofun }⟩
  | noUsername realm config entry after same =>
      cases asks
      exact ⟨same, realm, .inl
        { asks := rfl, of_realm := .inl rfl, isLooking := rfl, goes := rfl, fresh := id
          past := rfl, stays := nofun, begun := .inr rfl, idle := nofun }⟩
  | password realm username config entry after same =>
      cases asks
      exact ⟨same, realm, .inl
        { asks := rfl, of_realm := .inr rfl, isLooking := rfl, goes := rfl
          fresh := fun asked => Config.userKey_ne_passwordKey realm realm asked.2.symm
          past := rfl, stays := fun _ _ => rfl, begun := .inl ⟨rfl, rfl⟩, idle := nofun }⟩
  | refused realm username config failure after unsure same =>
      exact ⟨same, realm, .inr ⟨unsure, rfl, _, rfl⟩⟩

theorem Progress.keys_eq {fallback : Option (Config World)} {vault after : Vault World}
    {next : Work World} {keys : List String}
    (progress : Progress sure fallback vault work next after keys) : keys = work.asks.toList := by
  cases progress <;> rfl

/-- A look-up is past the asking for the username if it asks for it now or was past it before. -/
theorem Progress.hasAsked_username {fallback : Option (Config World)} {vault after : Vault World}
    {next : Work World} {keys : List String}
    (progress : Progress sure fallback vault work next after keys)
    (asked : next.HasAsked realm (Config.userKey realm)) :
    work.HasAsked realm (Config.userKey realm) ∨ work.asks = some (Config.userKey realm) := by
  cases progress with
  | known | unknown | unconfigured | refused | stored | removed | removedAll => cases asked
  | username => exact .inr (congrArg some (Config.userKey_inj.mpr asked.1))
  | noUsername => exact .inr (congrArg some (Config.userKey_inj.mpr asked))
  | password => exact .inl ⟨asked, rfl⟩

theorem isLookingUp_of_asks (of_realm : key = Config.userKey realm ∨ key = Config.passwordKey realm)
    (asks : work.asks = some key) : work.IsLookingUp realm := by
  cases work with
  | askUsername other =>
      cases asks
      exact Config.eq_of_key (.inl rfl) of_realm
  | askPassword other =>
      cases asks
      exact Config.eq_of_key (.inr rfl) of_realm
  | look | store | remove | removeAll | leave => cases asks

theorem hasAsked_username_of_asks (asks : work.asks = some (Config.passwordKey realm)) :
    work.HasAsked realm (Config.userKey realm) := by
  cases work with
  | askUsername other =>
      exact absurd (Option.some.inj asks) (Config.userKey_ne_passwordKey other realm)
  | askPassword other => exact ⟨Config.passwordKey_inj.mp (Option.some.inj asks), rfl⟩
  | look | store | remove | removeAll | leave => cases asks

end Work

/-- Something that a thread does in a turn under the lock of a resolver. -/
structure Effort (World : Type) where
  /-- The thread. -/
  number : Nat
  /-- The place of the call among the calls of the thread. -/
  place : Nat
  /-- The resolver whose lock the thread has. -/
  resolver : Nat
  /-- What is done. -/
  work : Work World

/-- Whether a key of a realm is asked for. -/
def Effort.Reads (realm : String) (effort : Effort World) : Prop :=
  effort.work.asks = some (Config.userKey realm) ∨
    effort.work.asks = some (Config.passwordKey realm)

/-- Whether the call that is at work has asked for the username of a realm. -/
def Effort.IsBegun (realm : String) (efforts : List (Effort World)) (effort : Effort World) :
    Prop :=
  ∃ work : Work World, work.asks = some (Config.userKey realm) ∧ { effort with work } ∈ efforts

/-- The resolvers under whose locks a key is asked for, each time that it is. -/
def readers (key : String) (efforts : List (Effort World)) : List Nat :=
  (efforts.filter fun effort => effort.work.asks = some key).map (·.resolver)

/-- What is stored for a realm, each time with the resolver under whose lock it is. -/
def stored (realm : String) (efforts : List (Effort World)) : List (Nat × Option Record) :=
  efforts.filterMap fun effort =>
    match effort.work with
    | .store other entry => if other = realm then some (effort.resolver, entry) else none
    | _ => none

/-- Whether an entry for a realm is in a cache or is stored. -/
def IsFound (cache : Cache) (efforts : List (Effort World)) (realm : String)
    (entry : Option Record) : Prop :=
  cache.find? realm = some entry ∨ ∃ resolver, (resolver, entry) ∈ stored realm efforts

section Efforts

variable (efforts : List (Effort World)) {effort : Effort World} {key realm : String}

theorem readers_append (key : String) (early late : List (Effort World)) :
    readers key (early ++ late) = readers key early ++ readers key late := by
  rw [readers, List.filter_append, List.map_append]
  rfl

theorem stored_append (realm : String) (early late : List (Effort World)) :
    stored realm (early ++ late) = stored realm early ++ stored realm late :=
  List.filterMap_append ..

theorem readers_concat :
    readers key (efforts ++ [effort]) =
      readers key efforts ++ if effort.work.asks = some key then [effort.resolver] else [] := by
  rw [readers_append]
  by_cases asks : effort.work.asks = some key <;> simp [readers, asks]

theorem mem_readers_concat {reader : Nat} :
    reader ∈ readers key (efforts ++ [effort]) ↔
      reader ∈ readers key efforts ∨ effort.work.asks = some key ∧ reader = effort.resolver := by
  rw [readers_concat]
  by_cases asks : effort.work.asks = some key <;> simp [asks]

theorem Effort.IsBegun.append {efforts : List (Effort World)} (begun : effort.IsBegun realm efforts)
    (late : List (Effort World)) : effort.IsBegun realm (efforts ++ late) := by
  obtain ⟨work, asks, is_effort⟩ := begun
  exact ⟨work, asks, List.mem_append_left _ is_effort⟩

theorem Effort.Reads.isLookingUp (reads : effort.Reads realm) : effort.work.IsLookingUp realm := by
  rcases reads with asks | asks
  · exact Work.isLookingUp_of_asks (.inl rfl) asks
  · exact Work.isLookingUp_of_asks (.inr rfl) asks

theorem mem_readers_of_mem (is_effort : effort ∈ efforts) (asks : effort.work.asks = some key) :
    effort.resolver ∈ readers key efforts :=
  List.mem_map_of_mem (List.mem_filter.mpr ⟨is_effort, decide_eq_true asks⟩)

/-- If each resolver asks for a key once, the efforts in which it is asked for are those of
different resolvers. -/
theorem eq_of_resolver {other : Effort World} (once : (readers key efforts).Nodup)
    (is_effort : effort ∈ efforts) (asks : effort.work.asks = some key) (is_other : other ∈ efforts)
    (other_asks : other.work.asks = some key) (same : effort.resolver = other.resolver) :
    effort = other :=
  List.inj_on_of_nodup_map once (List.mem_filter.mpr ⟨is_effort, decide_eq_true asks⟩)
    (List.mem_filter.mpr ⟨is_other, decide_eq_true other_asks⟩) same

theorem stored_of_store {entry : Option Record} (stores : effort.work = .store realm entry) :
    stored realm (efforts ++ [effort]) = stored realm efforts ++ [(effort.resolver, entry)] := by
  rw [stored_append]
  simp [stored, stores]

theorem stored_of_not_store (idle : ∀ entry, effort.work ≠ .store realm entry) :
    stored realm (efforts ++ [effort]) = stored realm efforts := by
  rw [stored_append]
  cases done : effort.work with
  | store other entry =>
      have different : other ≠ realm := by
        rintro rfl
        exact idle entry done
      simp [stored, done, different]
  | look | askUsername | askPassword | remove | removeAll | leave => simp [stored, done]

theorem mem_stored_concat {storer : Nat} {entry : Option Record} :
    (storer, entry) ∈ stored realm (efforts ++ [effort]) ↔
      (storer, entry) ∈ stored realm efforts ∨
        effort.work = .store realm entry ∧ storer = effort.resolver := by
  by_cases stores : ∃ entry, effort.work = .store realm entry
  · obtain ⟨other, stores⟩ := stores
    rw [stored_of_store efforts stores, stores]
    simp [and_comm, eq_comm]
  · rw [stored_of_not_store efforts fun other same => stores ⟨other, same⟩]
    refine ⟨.inl, ?_⟩
    rintro (earlier | ⟨same, -⟩)
    · exact earlier
    · exact absurd ⟨entry, same⟩ stores

theorem IsFound.append {cache : Cache} {efforts : List (Effort World)} {entry : Option Record}
    (isFound : IsFound cache efforts realm entry) (late : List (Effort World)) :
    IsFound cache (efforts ++ late) realm entry := by
  rcases isFound with known | ⟨storer, isStored⟩
  · exact .inl known
  · refine .inr ⟨storer, ?_⟩
    rw [stored_append]
    exact List.mem_append_left _ isStored

end Efforts

/-- How a resolver stands to a realm, given what is being done under its lock. -/
structure Standing (start : Cache) (efforts : List (Effort World)) (realm : String) (resolver : Nat)
    (doing : Option (Work World)) : Prop where
  /-- A resolver that has asked for a key of the realm has stored the realm or is about to. -/
  spent : ∀ key, key = Config.userKey realm ∨ key = Config.passwordKey realm →
    resolver ∈ readers key efforts → (∃ entry, (resolver, entry) ∈ stored realm efforts) ∨
      ∃ work, doing = some work ∧ work.HasAsked realm key
  /-- A resolver that is looking the realm up has not stored it and has asked for no more than the
  look-up has come past. -/
  looking : ∀ work, doing = some work → work.IsLookingUp realm →
    start.find? realm = none ∧ (∀ entry, (resolver, entry) ∉ stored realm efforts) ∧
      (∀ key, key = Config.userKey realm ∨ key = Config.passwordKey realm →
        resolver ∈ readers key efforts → work.HasAsked realm key) ∧
      (work.HasAsked realm (Config.userKey realm) →
        resolver ∈ readers (Config.userKey realm) efforts)

namespace Standing

variable {start : Cache} {efforts : List (Effort World)} {effort : Effort World}
  {realm key : String} {resolver : Nat} {doing now : Option (Work World)} {next : Work World}

theorem of_iff {late : List (Effort World)} (standing : Standing start efforts realm resolver doing)
    (same_readers : ∀ key, key = Config.userKey realm ∨ key = Config.passwordKey realm →
      (resolver ∈ readers key late ↔ resolver ∈ readers key efforts))
    (same_stored : ∀ entry,
      (resolver, entry) ∈ stored realm late ↔ (resolver, entry) ∈ stored realm efforts) :
    Standing start late realm resolver doing where
  spent key of_realm reads := by
    simp only [same_stored]
    exact standing.spent key of_realm ((same_readers key of_realm).mp reads)
  looking work does isLooking := by
    obtain ⟨unknown, unstored, past, begun⟩ := standing.looking work does isLooking
    refine ⟨unknown, fun entry isStored => unstored entry ((same_stored entry).mp isStored), ?_, ?_⟩
    · exact fun key of_realm reads => past key of_realm ((same_readers key of_realm).mp reads)
    · exact fun did => (same_readers _ (.inl rfl)).mpr (begun did)

/-- What is done under the lock of another resolver does not matter. -/
theorem other (standing : Standing start efforts realm resolver doing)
    (different : resolver ≠ effort.resolver) :
    Standing start (efforts ++ [effort]) realm resolver doing := by
  apply standing.of_iff
  · intro key _
    simp [mem_readers_concat, different]
  · intro entry
    simp [mem_stored_concat, different]

/-- What does not look the realm up does not matter. -/
theorem apart (standing : Standing start efforts realm resolver doing)
    (apart : ¬effort.work.IsLookingUp realm) :
    Standing start (efforts ++ [effort]) realm resolver doing := by
  apply standing.of_iff
  · intro key of_realm
    rw [mem_readers_concat]
    refine ⟨?_, .inl⟩
    rintro (earlier | ⟨asks, -⟩)
    · exact earlier
    · exact absurd (Work.isLookingUp_of_asks of_realm asks) apart
  · intro entry
    rw [stored_of_not_store]
    intro other stores
    rw [stores] at apart
    exact apart rfl

/-- A resolver that does not look the realm up can turn to something else that does not. -/
theorem still (standing : Standing start efforts realm resolver doing)
    (before : ∀ work, doing = some work → ¬work.IsLookingUp realm)
    (later : ∀ work, now = some work → ¬work.IsLookingUp realm) :
    Standing start efforts realm resolver now where
  spent key of_realm reads := by
    rcases standing.spent key of_realm reads with isStored | ⟨work, does, asked⟩
    · exact .inl isStored
    · exact absurd (Work.isLookingUp_of_hasAsked asked) (before work does)
  looking work does isLooking := absurd isLooking (later work does)

/-- A resolver that finds the realm unknown begins to look it up. -/
theorem look (standing : Standing start efforts realm resolver doing)
    (before : ∀ work, doing = some work → ¬work.IsLookingUp realm)
    (unknown : start.find? realm = none)
    (unstored : ∀ entry, (resolver, entry) ∉ stored realm efforts) (given : Config World) :
    Standing start efforts realm resolver (some (.askUsername realm given)) := by
  have unread (key : String)
      (of_realm : key = Config.userKey realm ∨ key = Config.passwordKey realm) :
      resolver ∉ readers key efforts := by
    intro reads
    rcases standing.spent key of_realm reads with ⟨entry, isStored⟩ | ⟨work, does, asked⟩
    · exact unstored entry isStored
    · exact before work does (Work.isLookingUp_of_hasAsked asked)
  refine
    { spent := fun key of_realm reads => absurd reads (unread key of_realm)
      looking := ?_ }
  rintro _ ⟨⟩ -
  exact ⟨unknown, unstored, fun key of_realm reads => absurd reads (unread key of_realm), nofun⟩

/-- A resolver that asks for a key goes on looking the realm up. -/
theorem ask (standing : Standing start efforts realm effort.resolver (some effort.work))
    (step : Work.Asking realm key effort.work next) :
    Standing start (efforts ++ [effort]) realm effort.resolver (some next) := by
  obtain ⟨unknown, unstored, past, begun⟩ := standing.looking effort.work rfl step.isLooking
  have same_stored : stored realm (efforts ++ [effort]) = stored realm efforts :=
    stored_of_not_store efforts fun entry => step.idle realm entry
  have comes_past (asked : String)
      (of_realm : asked = Config.userKey realm ∨ asked = Config.passwordKey realm)
      (reads : effort.resolver ∈ readers asked (efforts ++ [effort])) :
      next.HasAsked realm asked := by
    rcases (mem_readers_concat efforts).mp reads with earlier | ⟨asks, -⟩
    · exact step.stays asked (past asked of_realm earlier)
    · obtain rfl : key = asked := Option.some.inj (step.asks.symm.trans asks)
      exact step.past
  refine
    { spent := fun asked of_realm reads => .inr ⟨next, rfl, comes_past asked of_realm reads⟩
      looking := ?_ }
  rintro _ ⟨⟩ -
  refine ⟨unknown, by rwa [same_stored], comes_past, fun _ => ?_⟩
  rw [mem_readers_concat]
  rcases step.begun with did | rfl
  · exact .inl (begun did)
  · exact .inr ⟨step.asks, rfl⟩

/-- A resolver that has stored the realm is done with it. -/
theorem done {entry : Option Record} (isStored : (resolver, entry) ∈ stored realm efforts)
    (later : ∀ work, now = some work → ¬work.IsLookingUp realm) :
    Standing start efforts realm resolver now where
  spent _ _ _ := .inl ⟨entry, isStored⟩
  looking work does isLooking := absurd isLooking (later work does)

end Standing

/-- The books about what has been done under the locks of all resolvers, given what was known at the
start, what is being done under each lock, and what is known. -/
structure Ledger (sure : String → Prop) (start : Cache) (efforts : List (Effort World))
    (under : Nat → Option (Work World)) (cache : Cache) : Prop where
  /-- What is known was known or has been stored. -/
  found : ∀ realm entry, cache.find? realm = some entry → IsFound start efforts realm entry
  /-- What was known or has been stored is known. -/
  kept : ∀ realm entry, IsFound start efforts realm entry → cache.find? realm ≠ none
  /-- A resolver asks for a key of a sure realm once. -/
  once : ∀ realm key, sure realm → key = Config.userKey realm ∨ key = Config.passwordKey realm →
    (readers key efforts).Nodup
  /-- A resolver stores a sure realm once. -/
  storedOnce : ∀ realm, sure realm → ((stored realm efforts).map (·.1)).Nodup
  /-- A resolver stores only a realm that was unknown and that it has looked up. -/
  storedOf : ∀ realm, sure realm → ∀ resolver entry, (resolver, entry) ∈ stored realm efforts →
    start.find? realm = none ∧ resolver ∈ readers (Config.userKey realm) efforts
  /-- Each resolver stands to each sure realm as it should. -/
  standing : ∀ realm, sure realm → ∀ resolver,
    Standing start efforts realm resolver (under resolver)

namespace Ledger

variable {sure : String → Prop} {start cache after : Cache} {efforts : List (Effort World)}
  {effort : Effort World} {under : Nat → Option (Work World)} {resolver : Nat}
  {now : Option (Work World)} {next : Work World} {realm key : String}

theorem empty (sure : String → Prop) (start : Cache) :
    Ledger sure start ([] : List (Effort World)) (fun _ => none) start where
  found _ _ known := .inl known
  kept realm entry found := by
    rcases found with known | ⟨resolver, absent⟩
    · rw [known]
      nofun
    · cases absent
  once _ _ _ _ := List.nodup_nil
  storedOnce _ _ := List.nodup_nil
  storedOf := nofun
  standing _ _ _ := { spent := nofun, looking := nofun }

/-- A resolver under whose lock no realm is being looked up can be given something to do that looks
none up. -/
theorem still (ledger : Ledger sure start efforts under cache)
    (before : ∀ work realm, under resolver = some work → ¬work.IsLookingUp realm)
    (later : ∀ work realm, now = some work → ¬work.IsLookingUp realm) :
    Ledger sure start efforts (assign under resolver now) cache :=
  { ledger with
    standing := fun realm isSure => by
      apply assign_forall (Standing start efforts realm)
      · exact (ledger.standing realm isSure resolver).still (before · realm) (later · realm)
      · exact fun other _ => ledger.standing realm isSure other }

/-- Only the resolver under whose lock something is done comes to stand otherwise. -/
theorem standing_assign (ledger : Ledger sure start efforts under cache) (isSure : sure realm)
    (mine : Standing start (efforts ++ [effort]) realm effort.resolver now) :
    ∀ resolver, Standing start (efforts ++ [effort]) realm resolver
      (assign under effort.resolver now resolver) := by
  apply assign_forall (Standing start (efforts ++ [effort]) realm)
  · exact mine
  · exact fun other different => (ledger.standing realm isSure other).other different

/-- A resolver stands as before with a realm that it was not looking up, unless it looks it up
now. -/
theorem standing_elsewhere (ledger : Ledger sure start efforts under cache) (isSure : sure realm)
    (doing : under effort.resolver = some effort.work) (apart : ¬effort.work.IsLookingUp realm)
    (later : ∀ work, now = some work → ¬work.IsLookingUp realm) :
    Standing start (efforts ++ [effort]) realm effort.resolver now := by
  refine ((ledger.standing realm isSure effort.resolver).still ?_ later).apart apart
  rw [doing]
  rintro _ ⟨⟩
  exact apart

/-- What stores nothing, and does not ask for a key of a sure realm again, leaves the rest of the
books alone. -/
theorem idle (ledger : Ledger sure start efforts under cache)
    (idle : ∀ realm entry, effort.work ≠ .store realm entry)
    (fresh : ∀ realm key, sure realm → key = Config.userKey realm ∨ key = Config.passwordKey realm →
      effort.work.asks = some key → effort.resolver ∉ readers key efforts)
    (mine : ∀ realm, sure realm →
      Standing start (efforts ++ [effort]) realm effort.resolver now)
    (same : after.entries = cache.entries) :
    Ledger sure start (efforts ++ [effort]) (assign under effort.resolver now) after := by
  have same_stored (realm : String) :
      stored realm (efforts ++ [effort]) = stored realm efforts :=
    stored_of_not_store efforts (idle realm)
  have same_find (realm : String) : after.find? realm = cache.find? realm := by
    rw [Cache.find?, same]
    rfl
  refine
    { found := by simpa only [IsFound, same_stored, same_find] using ledger.found
      kept := by simpa only [IsFound, same_stored, same_find] using ledger.kept
      once := ?_
      storedOnce := by simpa only [same_stored] using ledger.storedOnce
      storedOf := ?_
      standing := fun realm isSure => ledger.standing_assign isSure (mine realm isSure) }
  · intro realm key isSure of_realm
    have earlier := ledger.once realm key isSure of_realm
    rw [readers_concat]
    split
    case isTrue asks =>
      rw [← List.concat_eq_append]
      exact earlier.concat (fresh realm key isSure of_realm asks)
    case isFalse => rwa [List.append_nil]
  · intro realm isSure storer entry isStored
    rw [same_stored] at isStored
    obtain ⟨unknown, reads⟩ := ledger.storedOf realm isSure storer entry isStored
    exact ⟨unknown, (mem_readers_concat efforts).mpr (.inl reads)⟩

/-- What looks no realm up can be followed by what looks none up either. -/
theorem aside (ledger : Ledger sure start efforts under cache)
    (doing : under effort.resolver = some effort.work)
    (before : ∀ realm, ¬effort.work.IsLookingUp realm)
    (later : ∀ work realm, now = some work → ¬work.IsLookingUp realm) :
    Ledger sure start (efforts ++ [effort]) (assign under effort.resolver now) cache := by
  refine ledger.idle ?_ ?_ ?_ rfl
  · intro realm entry stores
    apply before realm
    rw [stores]
    rfl
  · exact fun realm key _ of_realm asks =>
      absurd (Work.isLookingUp_of_asks of_realm asks) (before realm)
  · exact fun realm isSure =>
      ledger.standing_elsewhere isSure doing (before realm) (later · realm)

/-- A resolver under whose lock a realm is found unknown has not looked it up. -/
theorem look (ledger : Ledger sure start efforts under cache) {config : Option (Config World)}
    (doing : under effort.resolver = some effort.work) (looks : effort.work = .look realm config)
    (unknown : cache.find? realm = none) (given : Config World) :
    Ledger sure start (efforts ++ [effort])
      (assign under effort.resolver (some (.askUsername realm given))) cache := by
  have before (other : String) : ¬effort.work.IsLookingUp other := by
    rw [looks]
    exact id
  refine ledger.idle (by rw [looks]; nofun) (by rw [looks]; nofun) (fun other isSure => ?_) rfl
  by_cases same : other = realm
  · subst same
    have free (work : Work World) (does : under effort.resolver = some work) :
        ¬work.IsLookingUp other := by
      obtain rfl : effort.work = work := Option.some.inj (doing.symm.trans does)
      exact before other
    refine ((ledger.standing other isSure effort.resolver).look free ?_ ?_ given).apart
      (before other)
    · cases known : start.find? other with
      | none => rfl
      | some entry => exact absurd unknown (ledger.kept other entry (.inl known))
    · exact fun entry isStored => ledger.kept other entry (.inr ⟨_, isStored⟩) unknown
  · refine ledger.standing_elsewhere isSure doing (before other) ?_
    rintro _ ⟨⟩ isLooking
    exact same isLooking.symm

/-- A resolver that goes on with a look-up has not asked for the key before. -/
theorem ask (ledger : Ledger sure start efforts under cache)
    (doing : under effort.resolver = some effort.work)
    (step : Work.Asking realm key effort.work next) (same : after.entries = cache.entries) :
    Ledger sure start (efforts ++ [effort]) (assign under effort.resolver (some next)) after := by
  have standing (other : String) (isSure : sure other) :
      Standing start efforts other effort.resolver (some effort.work) := by
    rw [← doing]
    exact ledger.standing other isSure effort.resolver
  refine ledger.idle step.idle ?_ (fun other isSure => ?_) same
  · intro other asked isSure of_other asks reads
    obtain rfl : key = asked := Option.some.inj (step.asks.symm.trans asks)
    obtain rfl : other = realm := Config.eq_of_key of_other step.of_realm
    obtain ⟨-, -, past, -⟩ := (standing other isSure).looking effort.work rfl step.isLooking
    exact step.fresh (past key of_other reads)
  · by_cases is_realm : other = realm
    · subst is_realm
      exact (standing other isSure).ask step
    · have elsewhere {work : Work World} (isLooking : work.IsLookingUp realm) :
          ¬work.IsLookingUp other := fun also => is_realm (also.unique isLooking)
      refine ledger.standing_elsewhere isSure doing (elsewhere step.isLooking) ?_
      rintro _ ⟨⟩
      exact elsewhere step.goes

/-- A resolver that gives the look-up of a realm up concerns no sure realm. -/
theorem refuse (ledger : Ledger sure start efforts under cache)
    {result : Except Failure (Option Record)} (doing : under effort.resolver = some effort.work)
    (asks : effort.work.asks = some key) (isLooking : effort.work.IsLookingUp realm)
    (unsure : ¬sure realm) (same : after.entries = cache.entries) :
    Ledger sure start (efforts ++ [effort]) (assign under effort.resolver (some (.leave result)))
      after := by
  -- the books are kept for realms that are sure, and this one is not
  have elsewhere (other : String) (isSure : sure other) : ¬effort.work.IsLookingUp other := by
    intro also
    obtain rfl := isLooking.unique also
    exact unsure isSure
  refine ledger.idle ?_ ?_ ?_ same
  · intro other entry stores
    rw [stores] at asks
    cases asks
  · exact fun other key isSure of_other asks =>
      absurd (Work.isLookingUp_of_asks of_other asks) (elsewhere other isSure)
  · refine fun other isSure => ledger.standing_elsewhere isSure doing (elsewhere other isSure) ?_
    rintro _ ⟨⟩
    exact id

/-- A resolver that stores what it has found is done with the realm. -/
theorem store (ledger : Ledger sure start efforts under cache) {entry : Option Record}
    (doing : under effort.resolver = some effort.work) (stores : effort.work = .store realm entry) :
    Ledger sure start (efforts ++ [effort])
      (assign under effort.resolver (some (.leave (.ok entry)))) (cache.store realm entry) := by
  have isLooking : effort.work.IsLookingUp realm := by
    rw [stores]
    rfl
  have same_readers (key : String) : readers key (efforts ++ [effort]) = readers key efforts := by
    simp [readers_concat, stores, Work.asks]
  have isStored : (effort.resolver, entry) ∈ stored realm (efforts ++ [effort]) :=
    (mem_stored_concat efforts).mpr (.inr ⟨stores, rfl⟩)
  refine
    { found := ?_
      kept := ?_
      once := by simpa only [same_readers] using ledger.once
      storedOnce := ?_
      storedOf := ?_
      standing := fun other isSure => ledger.standing_assign isSure ?_ }
  · intro other found known
    rw [Cache.find?_store] at known
    split at known
    case isTrue same =>
      cases known
      subst same
      exact .inr ⟨effort.resolver, isStored⟩
    case isFalse => exact (ledger.found other found known).append _
  · intro other found isFound
    rw [Cache.find?_store]
    split
    case isTrue => nofun
    case isFalse different =>
      rcases isFound with was_known | ⟨storer, was_stored⟩
      · exact ledger.kept other found (.inl was_known)
      · rcases (mem_stored_concat efforts).mp was_stored with earlier | ⟨same, -⟩
        · exact ledger.kept other found (.inr ⟨storer, earlier⟩)
        · cases stores.symm.trans same
          exact absurd rfl different
  · intro other isSure
    by_cases same : other = realm
    · subst same
      obtain ⟨-, unstored, -⟩ :=
        (ledger.standing other isSure effort.resolver).looking effort.work doing isLooking
      rw [stored_of_store efforts stores, List.map_append, List.map_singleton,
        ← List.concat_eq_append]
      refine (ledger.storedOnce other isSure).concat ?_
      intro isStorer
      obtain ⟨⟨_, found⟩, was_stored, rfl⟩ := List.mem_map.mp isStorer
      exact unstored found was_stored
    · rw [stored_of_not_store]
      · exact ledger.storedOnce other isSure
      · intro found stores_other
        cases stores.symm.trans stores_other
        exact same rfl
  · intro other isSure storer found was_stored
    rw [same_readers]
    rcases (mem_stored_concat efforts).mp was_stored with earlier | ⟨same, rfl⟩
    · exact ledger.storedOf other isSure storer found earlier
    · cases stores.symm.trans same
      obtain ⟨unknown, -, -, begun⟩ :=
        (ledger.standing realm isSure effort.resolver).looking effort.work doing isLooking
      refine ⟨unknown, begun ?_⟩
      rw [stores]
      rfl
  · by_cases same : other = realm
    · subst same
      exact .done isStored (by rintro _ ⟨⟩; exact id)
    · refine ledger.standing_elsewhere isSure doing (fun also => same (also.unique isLooking)) ?_
      rintro _ ⟨⟩
      exact id

/-- With reliable configurations a turn under a lock that drops nothing keeps the books. -/
theorem turn {fallback : Option (Config World)} {vault after : Vault World} {keys : List String}
    (ledger : Ledger sure start efforts under vault.cache)
    (doing : under effort.resolver = some effort.work)
    (progress : Work.Progress sure fallback vault effort.work next after keys)
    (drops : ∀ realm, effort.work ≠ .remove realm) (drops_all : effort.work ≠ .removeAll) :
    Ledger sure start (efforts ++ [effort]) (assign under effort.resolver (some next))
      after.cache := by
  cases asks : effort.work.asks with
  | some key =>
      obtain ⟨same, realm, step | ⟨unsure, isLooking, result, rfl⟩⟩ := progress.asking asks
      · exact ledger.ask doing step same
      · exact ledger.refuse doing asks isLooking unsure same
  | none =>
      obtain ⟨number, place, resolver, work⟩ := effort
      cases progress with
      | known realm config | unconfigured realm config =>
          refine ledger.aside doing (fun _ => id) ?_
          rintro _ _ ⟨⟩
          exact id
      | unknown realm config given reliable unknown => exact ledger.look doing rfl unknown given
      | username | noUsername | password | refused => cases asks
      | stored realm entry => exact ledger.store doing rfl
      | removed realm => exact absurd rfl (drops realm)
      | removedAll => exact absurd rfl drops_all

/-- A sure realm of which a key is asked for was unknown at the start. -/
theorem unknown_of_reads (ledger : Ledger sure start efforts under cache) (isSure : sure realm)
    (of_realm : key = Config.userKey realm ∨ key = Config.passwordKey realm)
    (reads : resolver ∈ readers key efforts) : start.find? realm = none := by
  have standing := ledger.standing realm isSure resolver
  rcases standing.spent key of_realm reads with ⟨entry, isStored⟩ | ⟨work, doing, asked⟩
  · exact (ledger.storedOf realm isSure resolver entry isStored).1
  · exact (standing.looking work doing (Work.isLookingUp_of_hasAsked asked)).1

/-- If a sure realm is looked up no more than once, no more than one entry is found for it. -/
theorem eq_of_isFound (ledger : Ledger sure start efforts under cache) (isSure : sure realm)
    (single : (readers (Config.userKey realm) efforts).length ≤ 1) {left right : Option Record}
    (is_left : IsFound start efforts realm left) (is_right : IsFound start efforts realm right) :
    left = right := by
  rcases is_left with left_known | ⟨left_storer, left_stored⟩
  · rcases is_right with right_known | ⟨right_storer, right_stored⟩
    · exact Option.some.inj (left_known.symm.trans right_known)
    · have unknown := (ledger.storedOf realm isSure right_storer right right_stored).1
      rw [left_known] at unknown
      cases unknown
  · obtain ⟨unknown, left_reads⟩ := ledger.storedOf realm isSure left_storer left left_stored
    rcases is_right with right_known | ⟨right_storer, right_stored⟩
    · rw [right_known] at unknown
      cases unknown
    · have right_reads := (ledger.storedOf realm isSure right_storer right right_stored).2
      have same_storer : left_storer = right_storer := by
        generalize readers (Config.userKey realm) efforts = all at single left_reads right_reads
        rcases all with _ | ⟨reader, _ | _⟩
        · cases left_reads
        · exact (List.mem_singleton.mp left_reads).trans (List.mem_singleton.mp right_reads).symm
        · simp at single
      have same : (left_storer, left) = (right_storer, right) :=
        List.inj_on_of_nodup_map (ledger.storedOnce realm isSure) left_stored right_stored
          same_storer
      exact congrArg Prod.snd same

end Ledger

end Threads
end Countersign
