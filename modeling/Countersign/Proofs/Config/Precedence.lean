import Countersign.Proofs.Config.Adoption
import Countersign.Proofs.Config.Isolation
import Countersign.Proofs.Config.Loading
import Countersign.Proofs.Config.Providers

/-!
# Which file a variable comes from

Providers of environment variables take their files over into one environment, each at most once.
A variable that was set at the start keeps its value, and any other has the value that the earliest
of these files has for it, as the file was when it was taken over.  What takes a file over is not
fixed here, nor is what the lines of a file bind: they are relied on to fit together.
-/

namespace Countersign

open Countersign.Action (Keeps)

/-- A file being taken over by a provider. -/
structure Load where
  /-- The number of the provider. -/
  provider : Nat
  /-- The variables that are set. -/
  environment : Environment
  /-- The files. -/
  files : Files
  /-- The place of the provider's file. -/
  place : Option String

namespace Load

/-- How a loader takes the file over, and what becomes of the variables. -/
def outcome (load : Load) (loader : Loader) : Except Failure Unit × Environment :=
  loader load.files load.place load.environment

/-- The value that the last line for a variable has, if the file is a regular file and text.  What a
line binds may depend on the variables that are set. -/
def value? (load : Load) (lines : Environment → List Char → List Dotenv.Binding) (name : String) :
    Option RawText :=
  match (load.files.bytesAt? load.place).map Utf8.decode with
  | some (.ok text) => (Dotenv.lastValue? (lines load.environment text) name).map .ofText
  | some (.error _) | none => none

/-- Whether a loader takes the file over as it is relied on to do it. -/
def TakesOver (load : Load) (loader : Loader)
    (lines : Environment → List Char → List Dotenv.Binding) : Prop :=
  loader.TakesOver lines load.files load.place load.environment

/-- The line that is logged. -/
def line (load : Load) (loader : Loader) : Event :=
  .noted (Loading.report (load.outcome loader).1)

theorem TakesOver.find?_outcome {load : Load} {loader : Loader}
    {lines : Environment → List Char → List Dotenv.Binding}
    (takesOver : load.TakesOver loader lines) (name : String) :
    (load.outcome loader).2.find? name =
      (load.environment.find? name).or (load.value? lines name) := by
  rw [value?, outcome]
  cases stands : load.files.bytesAt? load.place with
  | none => simp [takesOver.absent stands]
  | some bytes =>
      cases read : Utf8.decode bytes with
      | ok text => simp [read, takesOver.sets bytes text stands read name]
      | error fault => simp [read, (takesOver.fails bytes fault stands read).2]

end Load

/-- Whether the file of a provider has been taken over, if it is one of environment variables. -/
def Provider.loaded? : Provider → Option Bool
  | environment _ _ loaded => some loaded
  | _ => none

@[simp]
theorem Provider.loaded?_environment (lead : String) (place : Option String) (loaded : Bool) :
    (environment lead place loaded).loaded? = some loaded := rfl

theorem Provider.AfterRead.loaded?_eq {provider read : Provider} (after : provider.AfterRead read) :
    read.loaded? = provider.loaded? := by
  cases after <;> rfl

/-- Whether an event is the line about the end of taking a file over. -/
def Event.isReport : Event → Bool
  | noted .loaded | noted (.unloadable _) => true
  | _ => false

theorem Load.isReport_line (load : Load) (loader : Loader) : (load.line loader).isReport := by
  rw [line]
  cases (load.outcome loader).1 <;> rfl

namespace Surroundings

variable {surroundings : Surroundings} {number : Nat}

/-! ## One load -/

/-- The load that a provider has yet to do, as it would be now. -/
def load? (surroundings : Surroundings) (number : Nat) : Option Load :=
  match surroundings.providers number with
  | .environment _ place false =>
      some { provider := number, environment := surroundings.environment
             files := surroundings.files, place }
  | _ => none

/-- The surroundings after a load. -/
def afterLoad (surroundings : Surroundings) (lead : String) (load : Load) : Surroundings :=
  ({ surroundings with environment := (load.outcome surroundings.loader).2 }).setProvider
    load.provider (.environment lead load.place true)

theorem load?_eq_some {load : Load} (pending : surroundings.load? number = some load) :
    load.provider = number ∧ load.environment = surroundings.environment ∧
      (surroundings.providers number).loaded? = some false := by
  rw [load?] at pending
  rcases provided : surroundings.providers number with _ | _ | _ | ⟨lead, place, _ | _⟩ | _
  case environment.false =>
      rw [provided] at pending
      cases pending
      exact ⟨rfl, rfl, rfl⟩
  all_goals
      rw [provided] at pending
      cases pending

theorem load?_eq_none_of_loaded (loaded : (surroundings.providers number).loaded? = some true) :
    surroundings.load? number = none := by
  rw [load?]
  rcases provided : surroundings.providers number with _ | _ | _ | ⟨lead, place, _ | _⟩ | _
  case environment.false =>
      rw [provided] at loaded
      cases loaded
  all_goals rfl

theorem ensureLoaded_of_none (nothing : surroundings.load? number = none) :
    ensureLoaded number surroundings =
      { result := .ok (), state := surroundings, events := [] } := by
  rw [load?] at nothing
  rcases provided : surroundings.providers number with _ | _ | _ | ⟨lead, place, _ | _⟩ | _
  case environment.false =>
      rw [provided] at nothing
      cases nothing
  all_goals simp [ensureLoaded, Action.bind_apply, Action.pure_apply, provided]

theorem ensureLoaded_of_some {load : Load} (pending : surroundings.load? number = some load) :
    ∃ lead, ensureLoaded number surroundings =
      { result := .ok (), state := surroundings.afterLoad lead load
        events := [load.line surroundings.loader] } := by
  rw [load?] at pending
  rcases provided : surroundings.providers number with _ | _ | _ | ⟨lead, place, _ | _⟩ | _
  case environment.false =>
      rw [provided] at pending
      cases pending
      refine ⟨lead, ?_⟩
      simp [ensureLoaded, Action.bind_apply, provided, Loading.reported_apply, Surroundings.load,
        afterLoad, Load.line, Load.outcome]
  all_goals
      rw [provided] at pending
      cases pending

/-- Several threads that ask for a file to be taken over come to the same as one call. -/
theorem ensureLoadedTogether_eq {threads : Nat} (any : 0 < threads) (number : Nat) :
    ensureLoadedTogether number threads = ensureLoaded number := by
  funext surroundings
  rcases provided : surroundings.providers number with _ | _ | _ | ⟨lead, place, _ | _⟩ | _
  case environment.false =>
      obtain ⟨loaded, reached, logged⟩ :=
        Loading.State.run_crowd (Surroundings.load place) surroundings any
      simp only [ensureLoadedTogether, provided, loaded, reached, logged]
      simp [ensureLoaded, Action.bind_apply, provided, Loading.reported_apply]
  case environment.true =>
      have begun : (Loading.State.start surroundings true
          fun thread => if thread < threads then 1 else 0).IsSettled :=
        { set := rfl, late := fun _ => ⟨nofun, nofun⟩ }
      obtain ⟨final, -, same, silent⟩ := begun.run (Surroundings.load place) (Loading.crowd threads)
      have unchanged : surroundings.setProvider number (.environment lead place true) =
          surroundings := by
        rw [setProvider, ← provided, assign_same]
      simp only [ensureLoadedTogether, provided, final.set, same, silent]
      simp [Loading.State.start, unchanged, ensureLoaded, Action.bind_apply, Action.pure_apply,
        provided]
  all_goals
      simp [ensureLoadedTogether, ensureLoaded, Action.bind_apply, Action.pure_apply, provided]

/-! ## Moves -/

/-- What can be done with providers of environment variables and with their files. -/
inductive Move where
  /-- A provider is made, which takes its file over at once if asked to. -/
  | create (lead : String) (place : Option String) (loads : Bool)
  /-- A provider is asked to take its file over. -/
  | ensure (number : Nat)
  /-- A provider is asked that by one thread and several more at once. -/
  | ensureTogether (number more : Nat)
  /-- The files become other ones. -/
  | rewrite (files : Files)
  /-- A provider is read, and it does not matter whether that fails. -/
  | get (number : Nat) (key : String)

/-- Does a move. -/
def Move.perform : Move → Action Surroundings Unit
  | create lead place loads => addVariables lead place loads
  | ensure number => ensureLoaded number
  | ensureTogether number more => ensureLoadedTogether number (more + 1)
  | rewrite files => Action.change fun surroundings => { surroundings with files }
  | get number key => do
      let _ ← (config number key).attempt
      pure ()

/-- Does moves in order. -/
def performAll : List Move → Action Surroundings Unit
  | [] => pure ()
  | move :: moves => do
      move.perform
      performAll moves

/-- The load that a move does. -/
def Move.load? (surroundings : Surroundings) : Move → Option Load
  | create lead place true =>
      (surroundings.addProvider (.environment lead place false)).load? surroundings.count
  | ensure number | ensureTogether number _ => surroundings.load? number
  | create _ _ false | rewrite _ | get _ _ => none

/-- The loads that moves do, in order. -/
def loads : List Move → Surroundings → List Load
  | [], _ => []
  | move :: moves, surroundings =>
      (move.load? surroundings).toList ++ loads moves (move.perform surroundings).state

/-- Whether every provider of environment variables has a number that has been given away. -/
def IsNumbered (surroundings : Surroundings) : Prop :=
  ∀ number, (surroundings.providers number).loaded? ≠ none → number < surroundings.count

/-- What becomes of the variables and their providers while one load is done at most. -/
structure Advance (before : Surroundings) (load? : Option Load)
    (outcome : Outcome Surroundings Unit) : Prop where
  succeeds : outcome.result = .ok ()
  loader : outcome.state.loader = before.loader
  environment : outcome.state.environment =
    (load?.map fun load => (load.outcome before.loader).2).getD before.environment
  reports : outcome.events.filter Event.isReport = (load?.map (·.line before.loader)).toList
  current : ∀ load ∈ load?, load.environment = before.environment ∧
    (before.providers load.provider).loaded? ≠ some true
  loaded : ∀ number, (outcome.state.providers number).loaded? = some true ↔
    (before.providers number).loaded? = some true ∨ ∃ load ∈ load?, load.provider = number
  numbered : outcome.state.IsNumbered

theorem advance_ensureLoaded (numbered : surroundings.IsNumbered) (number : Nat) :
    Advance surroundings (surroundings.load? number) (ensureLoaded number surroundings) := by
  cases pending : surroundings.load? number with
  | none =>
      rw [ensureLoaded_of_none pending]
      exact
        { succeeds := rfl, loader := rfl, environment := rfl, reports := rfl, current := nofun
          loaded := by simp
          numbered }
  | some load =>
      obtain ⟨lead, loaded⟩ := ensureLoaded_of_some pending
      obtain ⟨same, environment, unloaded⟩ := load?_eq_some pending
      subst same
      rw [loaded]
      refine
        { succeeds := rfl, loader := rfl, environment := rfl
          reports := by simp [load.isReport_line]
          current := ?_, loaded := fun asked => ?_, numbered := fun asked given => ?_ }
      · rintro _ ⟨⟩
        exact ⟨environment, by simp [unloaded]⟩
      · by_cases equal : asked = load.provider
        · subst equal
          simp [afterLoad, setProvider]
        · have different : ¬load.provider = asked := fun same => equal same.symm
          simp [afterLoad, setProvider, assign_of_ne, equal, different]
      · by_cases equal : asked = load.provider
        · subst equal
          exact numbered load.provider (by simp [unloaded])
        · refine numbered asked ?_
          simpa [afterLoad, setProvider, assign_of_ne, equal] using given

/-- A new provider has not taken its file over. -/
theorem loaded?_addProvider (numbered : surroundings.IsNumbered) (lead : String)
    (place : Option String) :
    let added := surroundings.addProvider (.environment lead place false)
    added.IsNumbered ∧ ∀ number, (added.providers number).loaded? = some true ↔
      (surroundings.providers number).loaded? = some true := by
  refine ⟨fun number given => ?_, fun number => ?_⟩
  · by_cases new : number = surroundings.count
    · subst new
      exact Nat.lt_succ_self _
    · refine Nat.lt_succ_of_lt (numbered number ?_)
      simpa [addProvider, setProvider, assign_of_ne, new] using given
  · by_cases new : number = surroundings.count
    · subst new
      have unknown : (surroundings.providers surroundings.count).loaded? = none := by
        cases known : (surroundings.providers surroundings.count).loaded? with
        | none => rfl
        | some loaded => exact absurd (numbered _ (by simp [known])) (Nat.lt_irrefl _)
      simp [addProvider, setProvider, unknown]
    · simp [addProvider, setProvider, assign_of_ne, new]

/-- Whether the variables and the providers of variables are as they were. -/
structure IsStill (before after : Surroundings) : Prop where
  loader : after.loader = before.loader
  environment : after.environment = before.environment
  count : after.count = before.count
  loaded : ∀ number, (after.providers number).loaded? = (before.providers number).loaded?

theorem IsStill.refl (surroundings : Surroundings) : IsStill surroundings surroundings where
  loader := rfl
  environment := rfl
  count := rfl
  loaded _ := rfl

theorem IsStill.setProvider {before after : Surroundings} (still : IsStill before after)
    {provider : Provider} (same : provider.loaded? = (after.providers number).loaded?) :
    IsStill before (after.setProvider number provider) where
  loader := still.loader
  environment := still.environment
  count := still.count
  loaded := by
    refine assign_forall
      (fun asked (provider : Provider) => provider.loaded? = (before.providers asked).loaded?)
      ?_ fun asked _ => still.loaded asked
    rw [same, still.loaded]

/-- Reading a provider does not change the variables, nor which files have been taken over. -/
theorem read_keeps_still (before : Surroundings) (number : Nat) (key : String) :
    (read number key).Keeps (IsStill before) (fun event => event.isReport = false)
      fun _ => True :=
  read_keeps_of_afterRead (fun _ => rfl) fun _ still _ after =>
    still.setProvider after.loaded?_eq

theorem config_keeps_still (before : Surroundings) (number : Nat) (key : String) :
    (config number key).Keeps (IsStill before) (fun event => event.isReport = false)
      fun _ => True :=
  Keeps.current.bind fun _ _ =>
    value_keeps_of_read trivial
      (fun other (_ : True) => read_keeps_still before other key) (fun _ _ _ _ _ _ => trivial)
      trivial _

/-- What a move does is to do its load. -/
theorem advance_perform (numbered : surroundings.IsNumbered) (move : Move) :
    Advance surroundings (move.load? surroundings) (move.perform surroundings) := by
  cases move with
  | create lead place loads =>
      obtain ⟨numbered_added, loaded_added⟩ := loaded?_addProvider numbered lead place
      cases loads with
      | false =>
          exact
            { succeeds := rfl, loader := rfl, environment := rfl, reports := rfl, current := nofun
              loaded := fun number => (loaded_added number).trans (by simp [Move.load?])
              numbered := numbered_added }
      | true =>
          have advance := advance_ensureLoaded numbered_added surroundings.count
          have performed : (Move.create lead place true).perform surroundings =
              ensureLoaded surroundings.count
                (surroundings.addProvider (.environment lead place false)) := by
            simp [Move.perform, addVariables, Action.bind_apply]
          rw [performed]
          refine { advance with current := fun load loading => ?_, loaded := fun number => ?_ }
          · obtain ⟨environment, unloaded⟩ := advance.current load loading
            exact ⟨environment, mt (loaded_added _).mpr unloaded⟩
          · rw [← loaded_added]
            exact advance.loaded number
  | ensure number => exact advance_ensureLoaded numbered number
  | ensureTogether number more =>
      rw [Move.perform, ensureLoadedTogether_eq more.succ_pos]
      exact advance_ensureLoaded numbered number
  | rewrite files =>
      exact
        { succeeds := rfl, loader := rfl, environment := rfl, reports := rfl, current := nofun
          loaded := by simp [Move.perform, Move.load?]
          numbered }
  | get number key =>
      have kept := config_keeps_still surroundings number key surroundings (.refl surroundings)
      have performed : (Move.get number key).perform surroundings =
          { result := .ok (), state := (config number key surroundings).state
            events := (config number key surroundings).events } := by
        simp [Move.perform, Action.bind_apply, Action.pure_apply]
      rw [performed]
      refine
        { succeeds := rfl, loader := kept.state.loader, environment := kept.state.environment
          current := nofun
          reports := List.filter_eq_nil_iff.mpr fun event observed => by
            simp [kept.events event observed]
          loaded := fun asked => by simp [kept.state.loaded, Move.load?]
          numbered := fun asked given => ?_ }
      rw [kept.state.loaded] at given
      rw [kept.state.count]
      exact numbered asked given

/-! ## Runs -/

/-- What loads have come to, from an environment that they began with. -/
structure IsAfter (loader : Loader) (lines : Environment → List Char → List Dotenv.Binding)
    (environment : Environment) (past : List Load) (surroundings : Surroundings) : Prop where
  loader : surroundings.loader = loader
  numbered : surroundings.IsNumbered
  loaded : ∀ number, (surroundings.providers number).loaded? = some true ↔
    ∃ load ∈ past, load.provider = number
  distinct : (past.map (·.provider)).Nodup
  held : ∀ name, surroundings.environment.find? name =
    (environment.find? name).or (past.findSome? (·.value? lines name))

variable {loader : Loader} {lines : Environment → List Char → List Dotenv.Binding}
  {environment : Environment} {past : List Load}

theorem isAfter_start (loader : Loader) (lines : Environment → List Char → List Dotenv.Binding)
    (environment : Environment) (files : Files) :
    IsAfter loader lines environment [] (start loader environment files) where
  loader := rfl
  numbered number given := absurd rfl given
  loaded number := by simp [start, Provider.loaded?]
  distinct := .nil
  held name := by simp [start]

/-- A load of a provider that has not loaded comes after the others. -/
theorem IsAfter.advance (after : IsAfter loader lines environment past surroundings)
    {load? : Option Load} {outcome : Outcome Surroundings Unit}
    (advance : Advance surroundings load? outcome)
    (takesOver : ∀ load ∈ load?, load.TakesOver loader lines) :
    IsAfter loader lines environment (past ++ load?.toList) outcome.state := by
  cases load? with
  | none =>
      rw [Option.toList_none, List.append_nil]
      refine
        { after with
          loader := advance.loader.trans after.loader
          numbered := advance.numbered
          loaded := fun number => ?_
          held := fun name => ?_ }
      · rw [advance.loaded, after.loaded]
        simp
      · rw [advance.environment]
        exact after.held name
  | some load =>
      obtain ⟨same, unloaded⟩ := advance.current load rfl
      refine
        { loader := advance.loader.trans after.loader
          numbered := advance.numbered
          loaded := fun number => ?_
          distinct := ?_
          held := fun name => ?_ }
      · rw [advance.loaded, after.loaded]
        simp [or_and_right, exists_or]
      · rw [List.map_append]
        refine List.nodup_append.mpr ⟨after.distinct, by simp, ?_⟩
        rintro _ among _ isLast rfl
        obtain rfl := List.mem_singleton.mp isLast
        obtain ⟨earlier, isPast, same⟩ := List.mem_map.mp among
        exact unloaded ((after.loaded _).mpr ⟨earlier, isPast, same⟩)
      · rw [advance.environment, Option.map_some, Option.getD_some, after.loader,
          (takesOver load rfl).find?_outcome, same, after.held, List.findSome?_append,
          Option.or_assoc]
        simp

/-- Moves succeed, and they log and bring about what their loads do. -/
theorem IsAfter.performAll (after : IsAfter loader lines environment past surroundings)
    (moves : List Move)
    (takesOver : ∀ load ∈ loads moves surroundings, load.TakesOver loader lines) :
    (Surroundings.performAll moves surroundings).result = .ok () ∧
      (Surroundings.performAll moves surroundings).events.filter Event.isReport =
        (loads moves surroundings).map (·.line loader) ∧
      IsAfter loader lines environment (past ++ loads moves surroundings)
        (Surroundings.performAll moves surroundings).state := by
  induction moves generalizing surroundings past with
  | nil =>
      rw [loads, List.append_nil]
      exact ⟨rfl, rfl, after⟩
  | cons move moves induction =>
      have advance := advance_perform after.numbered move
      obtain ⟨first, rest⟩ := List.forall_mem_append.mp takesOver
      have next := after.advance advance fun load loading =>
        first load (Option.mem_toList.mpr loading)
      obtain ⟨succeeds, reports, final⟩ := induction next rest
      rw [Surroundings.performAll, Action.bind_of_ok advance.succeeds, loads]
      refine ⟨succeeds, ?_, ?_⟩
      · rw [Outcome.after, List.filter_append, advance.reports, after.loader, reports,
          List.map_append]
        cases move.load? surroundings <;> rfl
      · rwa [← List.append_assoc]

/-- A provider of environment variables gives the value of the variable that a key names. -/
theorem result_config {lead : String} {place : Option String} {loaded : Bool}
    (provided : surroundings.providers number = .environment lead place loaded) (key : String) :
    (config number key surroundings).result =
      .ok (surroundings.environment.find? (Environment.variableName lead key)) := by
  have single : ∀ members, surroundings.providers number ≠ .chain members := by simp [provided]
  rw [config_eq_read single]
  cases found : surroundings.environment.find? (Environment.variableName lead key) with
  | none => simp [read, Action.bind_apply, Action.pure_apply, provided, found]
  | some value => simp [read, Action.bind_apply, provided, found, Except.map]

/-- Whatever is done with providers of environment variables and with their files, a variable that
was set at the start keeps its value, and any other has the value of the last line for it in the
earliest file that was taken over, as it then was, with such a line, or is not set.  Each provider
takes its file over once at most, logs that once, and takes no later file over.  What takes the
files over is relied on to set what is not set to the values that the lines have, and to set nothing
of a place without a regular file or of a file that is not text. -/
theorem performAll_earliest_load_prevails
    (loader : Loader) (lines : Environment → List Char → List Dotenv.Binding)
    (environment : Environment) (files : Files) (moves : List Move)
    (takesOver : ∀ load ∈ loads moves (start loader environment files),
      load.TakesOver loader lines) :
    let done := loads moves (start loader environment files)
    let outcome := performAll moves (start loader environment files)
    let value? := fun name => (environment.find? name).or (done.findSome? (·.value? lines name))
    outcome.result = .ok () ∧
      (∀ name, outcome.state.environment.find? name = value? name) ∧
      (∀ number lead place loaded key,
        outcome.state.providers number = .environment lead place loaded →
        (config number key outcome.state).result =
          .ok (value? (Environment.variableName lead key))) ∧
      (done.map (·.provider)).Nodup ∧
      outcome.events.filter Event.isReport = done.map (·.line loader) ∧
      ∀ load ∈ done, ∀ files,
        ensureLoaded load.provider { outcome.state with files } =
          { result := .ok (), state := { outcome.state with files }, events := [] } := by
  intro done outcome value?
  obtain ⟨succeeds, reports, after⟩ :=
    (isAfter_start loader lines environment files).performAll moves takesOver
  rw [List.nil_append] at after
  refine ⟨succeeds, after.held, fun number lead place loaded key provided => ?_, after.distinct,
    reports, fun load isDone files => ?_⟩
  · rw [result_config provided, after.held]
  · have loaded := (after.loaded load.provider).mpr ⟨load, isDone, rfl⟩
    exact ensureLoaded_of_none (load?_eq_none_of_loaded loaded)

/-- The files at first: one that sets a variable twice, one that is not text, and a directory. -/
def earlyFiles : Files :=
  .ofList [("first", .regular (Utf8.encode "A=1\nB=2\nB=3\nC\n")), ("broken", .regular [0xff]),
    ("folder", .directory)]

/-- The files later on. -/
def lateFiles : Files :=
  .ofList [("first", .regular (Utf8.encode "B=4\n")),
    ("second", .regular (Utf8.encode "B=5\nC=6\n"))]

/-- Moves that take over all of these files, the first and the second once each. -/
def fileMoves : List Move :=
  [.create "" "broken" true, .create "" "first" false, .create "" "folder" true,
    .ensureTogether 1 1, .rewrite lateFiles, .ensure 1, .create "" "second" true, .get 3 "b"]

theorem performAll_earliest_load_prevails_files :
    let started := start Environment.loader (.ofList [("A", .ofText "")]) earlyFiles
    let final := (performAll fileMoves started).state
    (∀ load ∈ loads fileMoves started, load.TakesOver Environment.loader fun _ => Dotenv.parse) ∧
      (loads fileMoves started).map (·.provider) = [0, 2, 1, 3] ∧
      final.environment.find? "A" = some (.ofText "") ∧
      final.environment.find? "B" = some (.ofText "3") ∧
      final.environment.find? "C" = some (.ofText "6") ∧
      final.environment.find? "D" = none := by
  intro started final
  have unhindered : (loads fileMoves started).all fun load =>
      Environment.isUnhindered load.files load.place load.environment := by
    decide +kernel
  have takesOver : ∀ load ∈ loads fileMoves started,
      load.TakesOver Environment.loader fun _ => Dotenv.parse := fun load isDone =>
    Environment.takesOver_of_isUnhindered (List.all_eq_true.mp unhindered load isDone)
  obtain ⟨-, held, -⟩ :=
    performAll_earliest_load_prevails Environment.loader (fun _ => Dotenv.parse)
      (.ofList [("A", .ofText "")]) earlyFiles fileMoves takesOver
  refine ⟨takesOver, by decide +kernel, ?_⟩
  rw [held, held, held, held]
  decide +kernel

end Surroundings
end Countersign
