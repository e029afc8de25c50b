import Countersign.Config.Environment
import Countersign.Proofs.Action
import Countersign.Proofs.Text.Raw

/-!
# What taking a file over sets

Within a file the last binding of a name counts.  A loader is relied on to give every variable that
is not set the value of its last binding, if that has one, and to change no other variable; where no
regular file stands it is to change nothing, and of a file that is not text it is to set nothing but
fail.  The loader of files of variables does so unless a variable cannot be set to its value, or the
environment declines files.
-/

namespace Countersign

namespace Dotenv

/-- The value that the last binding of a name gives it, if that has one. -/
def lastValue? (bindings : List Binding) (name : String) : Option String :=
  (bindings.reverse.find? fun binding => binding.1 = name).bind (·.2)

theorem lastValue?_of_not_mem {bindings : List Binding} {name : String}
    (absent : name ∉ bindings.map (·.1)) : lastValue? bindings name = none := by
  have unbound : bindings.reverse.find? (fun binding => binding.1 = name) = none := by
    rw [List.find?_eq_none]
    intro binding isBinding same
    rw [List.mem_reverse] at isBinding
    exact absent (List.mem_map.mpr ⟨binding, isBinding, of_decide_eq_true same⟩)
  rw [lastValue?, unbound]
  rfl

end Dotenv

namespace Table

variable {Key Value : Type} [DecidableEq Key]

/-- In the table of a list the last pair with a key counts. -/
theorem find?_ofList (pairs : List (Key × Value)) (key : Key) :
    (ofList pairs).find? key = (pairs.reverse.find? fun pair => pair.1 = key).map (·.2) := by
  have folded (table : Table Key Value) :
      (pairs.foldl (fun table pair => table.insert pair.1 pair.2) table).find? key =
        ((pairs.reverse.find? fun pair => pair.1 = key).map (·.2)).or (table.find? key) := by
    induction pairs generalizing table with
    | nil => rfl
    | cons pair pairs induction =>
        rw [List.foldl_cons, induction, List.reverse_cons, List.find?_append, find?_insert]
        cases pairs.reverse.find? fun pair => decide (pair.1 = key) with
        | some found => rfl
        | none =>
            by_cases same : pair.1 = key
            · simp [same]
            · have different : ¬key = pair.1 := fun equal => same equal.symm
              simp [same, different]
  simpa [ofList] using folded empty

end Table

namespace Environment

variable {environment : Environment} {name : String} {bindings : List Dotenv.Binding}

/-- Whether the variable of a binding can be set to its value, if there is one. -/
def isSettable (binding : Dotenv.Binding) : Bool :=
  binding.2.all fun value => (Variable.fault? binding.1 (.ofText value)).isNone

theorem supply_spec {value : Option String} (settable : isSettable (name, value))
    (environment : Environment) :
    ∃ after, supply name value environment = { result := .ok (), state := after, events := [] } ∧
      ∀ other, after.find? other =
        (environment.find? other).or ((if name = other then value else none).map .ofText) := by
  cases value with
  | none => exact ⟨environment, rfl, fun other => by simp⟩
  | some value =>
      cases known : environment.find? name with
      | some held =>
          refine ⟨environment, ?_, fun other => ?_⟩
          · simp [supply, Action.bind_apply, Action.pure_apply, Table.contains, known]
          · by_cases same : name = other
            · subst same
              simp [known]
            · simp [same]
      | none =>
          refine ⟨environment.insert name (.ofText value), ?_, fun other => ?_⟩
          · have unfaulty : Variable.fault? name (.ofText value) = none :=
              Option.isNone_iff_eq_none.mp settable
            simp [supply, Action.bind_apply, Table.contains, known, set, unfaulty]
          · by_cases same : name = other
            · subst same
              simp [known]
            · have different : ¬other = name := fun equal => same equal.symm
              simp [Table.find?_insert, same, different]

/-- Of several bindings of a name the first one with a value counts. -/
theorem supplyAll_spec (settable : ∀ binding ∈ bindings, isSettable binding)
    (environment : Environment) :
    ∃ after, supplyAll bindings environment =
        { result := .ok (), state := after, events := [] } ∧
      ∀ name, after.find? name = (environment.find? name).or
        ((bindings.findSome? fun binding => if binding.1 = name then binding.2 else none).map
          .ofText) := by
  induction bindings generalizing environment with
  | nil => exact ⟨environment, rfl, fun name => by simp⟩
  | cons binding bindings induction =>
      obtain ⟨first, rest⟩ := List.forall_mem_cons.mp settable
      obtain ⟨middle, supplied, held⟩ := supply_spec first environment
      obtain ⟨after, supplied_all, held_all⟩ := induction rest middle
      refine ⟨after, ?_, fun name => ?_⟩
      · rw [supplyAll, Action.bind_of_ok (by rw [supplied]), supplied, supplied_all]
        rfl
      · rw [held_all, held, Option.or_assoc, List.findSome?_cons]
        cases if binding.1 = name then binding.2 else none <;> rfl

theorem findSome?_names (names : List String) (values : String → Option String) (name : String) :
    (names.findSome? fun other => if other = name then values other else none) =
      if name ∈ names then values name else none := by
  induction names with
  | nil => rfl
  | cons first names induction =>
      rw [List.findSome?_cons, induction]
      by_cases same : first = name
      · subst same
        cases values first <;> simp
      · have different : ¬name = first := fun equal => same equal.symm
        simp [same, different]

/-- In the settled bindings a name has the value of its last binding. -/
theorem findSome?_settled (bindings : List Dotenv.Binding) (name : String) :
    ((settled bindings).findSome? fun binding => if binding.1 = name then binding.2 else none) =
      Dotenv.lastValue? bindings name := by
  have joined (other : String) :
      ((Table.ofList bindings).find? other).join = Dotenv.lastValue? bindings other := by
    rw [Table.find?_ofList, Dotenv.lastValue?]
    cases bindings.reverse.find? fun binding => decide (binding.1 = other) <;> rfl
  rw [settled, List.findSome?_map]
  simp only [Function.comp_def, joined]
  rw [findSome?_names]
  by_cases bound : name ∈ bindings.map (·.1)
  · rw [if_pos (List.mem_eraseDups.mpr bound)]
  · rw [if_neg (mt List.mem_eraseDups.mp bound), Dotenv.lastValue?_of_not_mem bound]

/-- Whether nothing keeps a file from being taken over as a whole. -/
def isUnhindered (files : Files) (place : Option String) (environment : Environment) : Bool :=
  !environment.declinesFiles &&
    match bindingsAt files place with
    | .ok bindings => (settled bindings).all isSettable
    | .error _ => true

end Environment

/-- The bytes of the regular file at a place, if one stands there. -/
def Files.bytesAt? (files : Files) (place : Option String) : Option (List UInt8) :=
  match place.bind files.find? with
  | some (.regular bytes) => some bytes
  | some .directory | none => none

/-- What a loader is relied on for when it is to take the file at a place over, given what the lines
of a text bind. -/
structure Loader.TakesOver (loader : Loader)
    (lines : Environment → List Char → List Dotenv.Binding) (files : Files)
    (place : Option String) (environment : Environment) : Prop where
  /-- A variable that is not set gets the value that the last line for it has, if that has one. -/
  sets : ∀ bytes text, files.bytesAt? place = some bytes → Utf8.decode bytes = .ok text →
    ∀ name, (loader files place environment).2.find? name =
      (environment.find? name).or
        ((Dotenv.lastValue? (lines environment text) name).map .ofText)
  /-- Where no regular file stands nothing changes. -/
  absent : files.bytesAt? place = none → (loader files place environment).2 = environment
  /-- Of a file that is not text nothing is set, and it fails to be taken over. -/
  fails : ∀ bytes fault, files.bytesAt? place = some bytes → Utf8.decode bytes = .error fault →
    (∃ failure, (loader files place environment).1 = .error failure) ∧
      (loader files place environment).2 = environment

namespace Environment

theorem bindingsAt_eq (files : Files) (place : Option String) :
    bindingsAt files place =
      match files.bytesAt? place with
      | some bytes =>
          match Utf8.decode bytes with
          | .ok text => .ok (Dotenv.parse text)
          | .error fault => .error (.undecodable fault)
      | none => .ok [] := by
  rw [bindingsAt, Files.bytesAt?]
  rcases place.bind files.find? with _ | bytes | _ <;> rfl

/-- A file that nothing hinders is taken over as a loader is relied on to do it. -/
theorem takesOver_of_isUnhindered {files : Files} {place : Option String}
    (unhindered : isUnhindered files place environment) :
    loader.TakesOver (fun _ => Dotenv.parse) files place environment := by
  rw [isUnhindered, Bool.and_eq_true, Bool.not_eq_true'] at unhindered
  obtain ⟨accepts, settable⟩ := unhindered
  have loads : load files place environment =
      (Action.ofResult (bindingsAt files place) >>= adopt) environment := by
    simp [load, Action.bind_apply, accepts]
  rw [bindingsAt_eq] at loads settable
  constructor
  case sets =>
    intro bytes text stands read name
    rw [stands] at loads settable
    simp only [read] at loads settable
    obtain ⟨after, adopted, held⟩ := supplyAll_spec (List.all_eq_true.mp settable) environment
    have loaded : load files place environment =
        { result := .ok (), state := after, events := [] } := by
      simp [loads, Action.bind_apply, adopt, adopted]
    rw [loader, loaded, held, findSome?_settled]
  case absent =>
    intro absent
    rw [absent] at loads
    rw [loader, loads]
    rfl
  case fails =>
    intro bytes fault stands read
    rw [stands] at loads
    simp only [read] at loads
    rw [loader, loads]
    exact ⟨⟨_, rfl⟩, rfl⟩

end Environment
end Countersign
