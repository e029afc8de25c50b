import Countersign.Proofs.Config.Reliable
import Countersign.Scheme.Basic
import Countersign.Vault.Basic

/-!
# Actions that send nothing

Only a transport sends requests.  Whatever a resolver or a dispatcher does to answer a challenge
sends none, given configurations of which only lines can be observed.
-/

namespace Countersign

namespace Event

@[simp]
theorem requestsSent_append (early late : List Event) :
    requestsSent (early ++ late) = requestsSent early ++ requestsSent late :=
  List.filterMap_append ..

@[simp]
theorem requestsSent_nil : requestsSent [] = [] := rfl

@[simp]
theorem requestsSent_answered (attempt : Attempt) (response : Response) (events : List Event) :
    requestsSent (.answered attempt response :: events) = requestsSent events := rfl

@[simp]
theorem requestsSent_consulted (challenges : List String) (events : List Event) :
    requestsSent (.consulted challenges :: events) = requestsSent events := rfl

@[simp]
theorem requestsSent_granted (handle : Handle) (events : List Event) :
    requestsSent (.granted handle :: events) = requestsSent events := rfl

@[simp]
theorem requestsSent_noted (notice : Notice) (events : List Event) :
    requestsSent (.noted notice :: events) = requestsSent events := rfl

end Event

namespace Action

variable {State Part Value Result : Type}

/-- Whether an action never sends a request. -/
def IsSilent (action : Action State Value) : Prop :=
  ∀ state, Event.requestsSent (action state).events = []

theorem IsSilent.pure (value : Value) : IsSilent (pure value : Action State Value) :=
  fun _ => rfl

theorem IsSilent.note (notice : Notice) : IsSilent (note notice : Action State Unit) :=
  fun _ => rfl

theorem IsSilent.ofResult (result : Except Failure Value) :
    IsSilent (ofResult result : Action State Value) :=
  fun _ => rfl

theorem IsSilent.bind {action : Action State Value} {next : Value → Action State Result}
    (first : action.IsSilent) (rest : ∀ value, (next value).IsSilent) :
    (action >>= next).IsSilent := by
  intro state
  cases ended : (action state).result with
  | error failure => simpa [bind_of_error ended] using first state
  | ok value => simp [bind_of_ok ended, Outcome.after, first state, rest value _]

theorem IsSilent.attempt {action : Action State Value} (silent : action.IsSilent) :
    action.attempt.IsSilent := silent

theorem IsSilent.within {action : Action Part Value} (silent : action.IsSilent)
    (view : State → Part) (update : State → Part → State) :
    (action.within view update).IsSilent := fun state => silent (view state)

end Action

variable {World State Conf : Type}

theorem Config.IsQuiet.ask_isSilent {config : Config World} (quiet : config.IsQuiet)
    (key : String) : (config.ask key).IsSilent := by
  intro world
  rw [ask_apply, Event.requestsSent, List.filterMap_eq_nil_iff]
  intro event observed
  rcases List.mem_cons.mp observed with rfl | noted
  · rfl
  · obtain ⟨notice, rfl⟩ := quiet key world event noted
    rfl

namespace Credentials

variable {config : Config World}

theorem fromConfig_isSilent (quiet : config.IsQuiet) (realm : String) :
    (fromConfig realm config).IsSilent := by
  refine .bind ?_ fun username => .bind ?_ fun password => .ofResult _
  · refine (quiet.ask_isSilent _).bind fun answer => ?_
    cases answer with
    | none => exact fun _ => rfl
    | some username => exact .pure username
  · refine (quiet.ask_isSilent _).bind fun answer => ?_
    cases answer with
    | none => exact fun _ => rfl
    | some password => exact .pure password

end Credentials

namespace Vault

theorem settle_isSilent (realm : String) (outcome : Except Failure Credentials) :
    (settle realm outcome : Action (Vault World) (Option Record)).IsSilent := by
  intro vault
  rcases outcome with (_ | _ | _ | _ | _ | _ | _ | _ | _ | _ | _ | _ | _) | credentials <;> rfl

theorem lookUp_isSilent {config : Config World} (quiet : config.IsQuiet) (realm : String) :
    (lookUp realm config).IsSilent := by
  refine .bind (.attempt ?_) fun outcome => .bind (settle_isSilent realm outcome) fun entry => ?_
  · exact (Credentials.fromConfig_isSilent quiet realm).within _ _
  · exact .bind (fun _ => rfl) fun _ => .pure entry

/-- Answering a challenge sends nothing. -/
theorem resolve_isSilent {fallback config : Option (Config World)}
    (quiet : ∀ given, config.or fallback = some given → given.IsQuiet)
    (challenge : Option String) : (resolve fallback challenge config).IsSilent := by
  unfold resolve
  cases Challenge.parse challenge with
  | error failure => exact .bind (.note _) fun _ => .pure none
  | ok realm =>
      refine .bind (fun _ => rfl) fun entry => ?_
      cases entry with
      | some entry => exact .pure entry
      | none =>
          cases available : config.or fallback with
          | none => exact fun _ => rfl
          | some given => exact lookUp_isSilent (quiet given available) realm

end Vault

namespace Dispatcher

variable {dispatcher : Dispatcher State Conf} {config : Option Conf}

theorem authorize_isSilent
    (silent : ∀ scheme ∈ dispatcher, ∀ challenge, (scheme.resolve challenge config).IsSilent)
    (challenge : Option String) : (dispatcher.authorize challenge config).IsSilent := by
  unfold authorize
  cases selected : dispatcher.select challenge with
  | none => exact .bind (.note _) fun _ => .pure none
  | some scheme =>
      refine .bind (silent scheme (List.mem_of_find?_eq_some selected) challenge) fun answer => ?_
      cases answer with
      | none => exact .bind (.note _) fun _ => .pure none
      | some handle => exact .bind (.note _) fun _ => .pure (some handle)

/-- Answering one of several challenges sends nothing if no scheme sends anything. -/
theorem authorizeAny_isSilent
    (silent : ∀ scheme ∈ dispatcher, ∀ challenge, (scheme.resolve challenge config).IsSilent)
    (challenges : List (Option String)) : (dispatcher.authorizeAny config challenges).IsSilent := by
  induction challenges with
  | nil => exact .pure none
  | cons challenge challenges induction =>
      refine .bind (authorize_isSilent silent challenge) fun answer => ?_
      cases answer with
      | none => exact induction
      | some handle => exact .pure (some handle)

end Dispatcher
end Countersign
