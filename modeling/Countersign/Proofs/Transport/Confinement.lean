import Countersign.Proofs.Transport.Traffic

/-!
# Credentials stay with their origin

However exchanges interleave, a request is given only credentials that the schemes gave for a
refusal from its own origin.  What is remembered for an origin is what the last answer to
credentials there taught.
-/

namespace Countersign
namespace Traffic

variable {Conf State : Type} {schemes : Exchange.Schemes Conf State}
  {scene : Exchange.Scene Conf State}

/-- Whether the schemes have answered a refusal from an origin with a handle. -/
def Granted (schemes : Exchange.Schemes Conf State) (history : List (Turn Conf State))
    (origin : Origin) (handle : Handle) : Prop :=
  ∃ turn ∈ history, turn.Grants schemes origin handle

/-- The handle that an exchange is about to send, or has sent, to answer a refusal. -/
def answer? : Exchange.Stage → Option Handle
  | .closing handle | .resending handle => some handle
  | .passing | .reading _ | .sending _ | .finished _ => none

/-- Whether an exchange sends its request as it is, or has ended. -/
def isPassive : Exchange.Stage → Bool
  | .passing | .finished _ => true
  | .reading _ | .sending _ | .closing _ | .resending _ => false

/-- Whether a call goes where its request goes and carries no credentials but those of its caller
or granted ones. -/
structure Call.IsConfined (granted : Origin → Handle → Prop) (call : Call) : Prop where
  /-- The request goes where the caller sent it. -/
  url : call.exchange.request.url = call.original.url
  /-- What the exchange learns it learns about the place to which the caller sent the request. -/
  origin : call.exchange.origin = call.original.url.origin
  /-- Credentials of the caller are sent as they are, and once. -/
  own : call.original.authorization ≠ [] →
    call.exchange.request.authorization = call.original.authorization ∧
      isPassive call.exchange.stage
  /-- Without credentials of the caller those on the request are granted ones. -/
  given : call.original.authorization = [] → ∀ value ∈ call.exchange.request.authorization,
    ∃ handle, granted call.original.url.origin handle ∧ handle.headerValue = value
  /-- An answer to a refusal is a granted one. -/
  answering : ∀ handle, answer? call.exchange.stage = some handle →
    granted call.original.url.origin handle

/-- Whether all calls are confined, and what is remembered is granted and was taught last. -/
structure IsConfined (schemes : Exchange.Schemes Conf State) (traffic : Traffic Conf State) :
    Prop where
  calls : ∀ number call, traffic.calls number = some call →
    call.IsConfined (Granted schemes traffic.history)
  remembered : ∀ origin handle, traffic.scene.1.remembered.find? origin = some handle →
    Granted schemes traffic.history origin handle
  taught : ∀ origin, traffic.scene.1.remembered.find? origin =
    (traffic.history.filterMap (·.lesson? origin)).getLast?.join

variable {granted later : Origin → Handle → Prop}

theorem Call.IsConfined.mono {call : Call} (confined : call.IsConfined granted)
    (more : ∀ origin handle, granted origin handle → later origin handle) :
    call.IsConfined later where
  url := confined.url
  origin := confined.origin
  own := confined.own
  given bare value carried := by
    obtain ⟨handle, isGranted, same⟩ := confined.given bare value carried
    exact ⟨handle, more _ _ isGranted, same⟩
  answering handle staged := more _ _ (confined.answering handle staged)

/-- An exchange begins with no credentials but remembered ones. -/
theorem confined_begin
    (remembered : ∀ origin handle,
      scene.1.remembered.find? origin = some handle → granted origin handle)
    (request : Request) :
    (Exchange.begin request scene).state = scene ∧
      ∃ exchange, (Exchange.begin request scene).result = .ok exchange ∧
        Call.IsConfined granted { original := request, exchange } := by
  have begun := Exchange.begin_spec scene request
  generalize Exchange.begin request scene = outcome at begun
  cases begun with
  | own own =>
      exact ⟨rfl, _, rfl,
        { url := rfl
          origin := rfl
          own := fun _ => ⟨rfl, rfl⟩
          given := fun bare => absurd bare own
          answering := nofun }⟩
  | unshowable _ bare | bare bare | unsendable _ _ bare =>
      refine ⟨rfl, _, rfl,
        { url := rfl
          origin := rfl
          own := fun own => absurd bare own
          given := fun _ value carried => ?_
          answering := nofun }⟩
      rw [bare] at carried
      cases carried
  | attached handle bare _ attaches =>
      refine ⟨rfl, _, rfl,
        { url := rfl
          origin := rfl
          own := fun own => absurd bare own
          given := fun _ value carried => ?_
          answering := nofun }⟩
      rw [Request.authorization_withAuthorization, List.mem_singleton] at carried
      exact ⟨handle, remembered _ _ (Exchange.find?_of_attachment attaches), carried.symm⟩

/-- A call stays confined while its request is the same and it answers no refusal. -/
theorem Call.IsConfined.proceed {call : Call} {next : Exchange} (confined : call.IsConfined granted)
    (url : next.request.url = call.exchange.request.url)
    (origin : next.origin = call.exchange.origin)
    (carried : next.request.authorization = call.exchange.request.authorization)
    (passive : isPassive call.exchange.stage → isPassive next.stage)
    (unanswering : answer? next.stage = none) :
    Call.IsConfined granted { call with exchange := next } where
  url := url.trans confined.url
  origin := origin.trans confined.origin
  own owned := by
    obtain ⟨same, passes⟩ := confined.own owned
    exact ⟨carried.trans same, passive passes⟩
  given bare value isCarried := confined.given bare value (carried ▸ isCarried)
  answering handle answers := by
    rw [unanswering] at answers
    cases answers

/-- An exchange goes on with no credentials but those that it had and those that the turn granted.
-/
theorem confined_resume {call : Call} {reply : Exchange.Reply}
    (confined : call.IsConfined granted)
    (more : ∀ origin handle, granted origin handle → later origin handle)
    (grants : ∀ origin handle,
      Turn.Grants schemes origin handle { exchange := call.exchange, reply, scene } →
        later origin handle) :
    ∃ exchange, (call.exchange.resume schemes reply scene).result = .ok exchange ∧
      Call.IsConfined later { call with exchange } := by
  obtain ⟨original, exchange⟩ := call
  have confined := confined.mono more
  have resumed := Exchange.resume_spec schemes scene exchange reply
  dsimp only at grants ⊢
  generalize exchange.resume schemes reply scene = outcome at resumed
  cases resumed with
  | rest => exact ⟨_, rfl, confined⟩
  | passed | failed | settled | broken | unanswered | repeated | unsendable | rejected
  | accepted => exact ⟨_, rfl, confined.proceed rfl rfl rfl (fun _ => rfl) rfl⟩
  | read request origin attached =>
      exact ⟨_, rfl, confined.proceed rfl rfl rfl nofun rfl⟩
  | answering request origin attached handle response after events unauthorized challenged
      consulted =>
      refine ⟨_, rfl, { confined with own := ?_, answering := ?_ }⟩
      · intro owned
        cases (confined.own owned).2
      · rintro _ ⟨⟩
        have granting := grants request.url.origin handle
          ⟨attached, response, rfl, rfl, unauthorized, rfl, by rw [consulted]⟩
        rw [← confined.url]
        exact granting
  | resent request origin handle sendable =>
      have isGranted := confined.answering handle rfl
      refine ⟨_, rfl,
        { url := confined.url
          origin := confined.origin
          own := fun owned => by cases (confined.own owned).2
          given := fun _ value carried => ?_
          answering := by rintro _ ⟨⟩; exact isGranted }⟩
      rw [Request.authorization_withAuthorization, List.mem_singleton] at carried
      exact ⟨handle, isGranted, carried.symm⟩

/-- What a turn changes of what is remembered is what it teaches. -/
theorem remembered_resume {exchange : Exchange}
    (same : exchange.origin = exchange.request.url.origin) (reply : Exchange.Reply)
    (origin : Origin) :
    (exchange.resume schemes reply scene).state.1.remembered.find? origin =
      (Turn.lesson? origin { exchange, reply, scene }).getD
        (scene.1.remembered.find? origin) := by
  have resumed := Exchange.resume_spec schemes scene exchange reply
  generalize exchange.resume schemes reply scene = outcome at resumed
  cases resumed with
  | rest exchange reply waiting =>
      obtain ⟨request, at_, stage⟩ := exchange
      cases stage <;> cases reply <;> first | rfl | cases waiting
  | failed request at_ stage failure => cases stage <;> rfl
  | passed | read | settled | broken | unanswered | repeated | answering | unsendable | resent =>
      rfl
  | rejected request at_ handle response unauthorized =>
      obtain rfl : at_ = request.url.origin := same
      by_cases same : request.url.origin = origin
      · subst same
        simp [Turn.lesson?, unauthorized]
      · have different : ¬origin = request.url.origin := fun equal => same equal.symm
        simp [Turn.lesson?, same, Table.find?_erase, different]
  | accepted request at_ handle response authorized =>
      obtain rfl : at_ = request.url.origin := same
      by_cases same : request.url.origin = origin
      · subst same
        simp [Turn.lesson?, authorized]
      · have different : ¬origin = request.url.origin := fun equal => same equal.symm
        simp [Turn.lesson?, same, Table.find?_insert, different]

theorem Turn.answers_of_lesson {origin : Origin} {handle : Handle} {turn : Turn Conf State}
    (taught : turn.lesson? origin = some (some handle)) :
    ∃ response, turn.Answers origin handle response ∧ response.isUnauthorized = false := by
  obtain ⟨⟨request, _, stage⟩, reply, scene⟩ := turn
  cases stage <;> cases reply <;> try cases taught
  case resending.response sent response =>
    by_cases same : request.url.origin = origin
    · cases refused : response.isUnauthorized with
      | true => simp [lesson?, same, refused] at taught
      | false =>
          simp only [lesson?, same, refused, if_true, Bool.false_eq_true, if_false,
            Option.some.injEq] at taught
          subst taught
          exact ⟨response, ⟨rfl, rfl, same⟩, refused⟩
    · simp [lesson?, same] at taught

theorem Turn.lesson_of_answers {origin : Origin} {handle : Handle} {response : Response}
    {turn : Turn Conf State} (answers : turn.Answers origin handle response) :
    turn.lesson? origin = some (if response.isUnauthorized then none else some handle) := by
  obtain ⟨staged, replied, same⟩ := answers
  simp [lesson?, staged, replied, same]

theorem Granted.append {history : List (Turn Conf State)} {origin : Origin} {handle : Handle}
    (isGranted : Granted schemes history origin handle) (turn : Turn Conf State) :
    Granted schemes (history ++ [turn]) origin handle := by
  obtain ⟨earlier, recorded, grants⟩ := isGranted
  exact ⟨earlier, List.mem_append_left _ recorded, grants⟩

variable {traffic : Traffic Conf State}

theorem isConfined_start (config : Option Conf) (preemptive : Bool) (state : State) :
    IsConfined schemes (start ({ config, preemptive, remembered := .empty }, state)) :=
  { calls := fun _ _ started => by cases started
    remembered := fun _ _ known => by cases known
    taught := fun _ => rfl }

theorem calls_assign {calls : Nat → Option Call} {number : Nat} {call : Call} {holds : Call → Prop}
    (others : ∀ number call, calls number = some call → holds call) (new : holds call)
    (other : Nat) (found : Call) (isFound : assign calls number (some call) other = some found) :
    holds found := by
  refine assign_forall (fun _ value => ∀ found, value = some found → holds found) ?_ ?_ other
    found isFound
  · rintro _ ⟨⟩
    exact new
  · exact fun number _ => others number

theorem IsConfined.start (confined : IsConfined schemes traffic) (number : Nat)
    (request : Request) : IsConfined schemes (traffic.move schemes (.start number request)) := by
  cases taken : traffic.calls number with
  | some call => simpa only [Traffic.move, taken] using confined
  | none =>
      obtain ⟨same, exchange, begun, starts⟩ := confined_begin confined.remembered request
      have moved : traffic.move schemes (.start number request) =
          { traffic with
            calls := assign traffic.calls number (some { original := request, exchange }) } := by
        simp only [Traffic.move, taken, same, begun]
        rfl
      rw [moved]
      exact
        { calls := calls_assign confined.calls starts
          remembered := confined.remembered
          taught := confined.taught }

theorem IsConfined.resume (confined : IsConfined schemes traffic) (number : Nat)
    (reply : Exchange.Reply) :
    IsConfined schemes (traffic.move schemes (.resume number reply)) := by
  cases started : traffic.calls number with
  | none => simpa only [Traffic.move, started] using confined
  | some call =>
      have call_confined := confined.calls number call started
      generalize turn_eq : (⟨call.exchange, reply, traffic.scene⟩ : Turn Conf State) = turn
      have more (origin : Origin) (handle : Handle)
          (isGranted : Granted schemes traffic.history origin handle) :
          Granted schemes (traffic.history ++ [turn]) origin handle := isGranted.append turn
      obtain ⟨exchange, resumed, continues⟩ := confined_resume call_confined more
        fun origin handle grants => ⟨turn, List.mem_append_right _ (.head _), turn_eq ▸ grants⟩
      have moved : traffic.move schemes (.resume number reply) =
          { scene := (call.exchange.resume schemes reply traffic.scene).state
            calls := assign traffic.calls number (some { call with exchange })
            history := traffic.history ++ [turn] } := by
        simp only [Traffic.move, started, resumed, ← turn_eq]
        rfl
      have learned (origin : Origin) :
          (call.exchange.resume schemes reply traffic.scene).state.1.remembered.find? origin =
            (Turn.lesson? origin turn).getD (traffic.scene.1.remembered.find? origin) := by
        rw [← turn_eq]
        exact remembered_resume
          (call_confined.origin.trans (congrArg Url.origin call_confined.url.symm)) reply origin
      rw [moved]
      refine
        { calls := calls_assign (fun other found isFound =>
            (confined.calls other found isFound).mono more) continues
          remembered := ?_
          taught := ?_ }
      · intro origin handle known
        rw [learned] at known
        cases lesson : turn.lesson? origin with
        | none =>
            rw [lesson, Option.getD_none] at known
            exact (confined.remembered origin handle known).append turn
        | some taught =>
            rw [lesson, Option.getD_some] at known
            obtain ⟨response, ⟨staged, -, same⟩, -⟩ :=
              Turn.answers_of_lesson (known ▸ lesson)
            subst turn_eq
            have isGranted := call_confined.answering handle (by rw [staged]; rfl)
            rw [← call_confined.url, same] at isGranted
            exact more origin handle isGranted
      · intro origin
        rw [learned, confined.taught, List.filterMap_append, List.getLast?_append]
        cases lesson : turn.lesson? origin with
        | none => simp [lesson]
        | some taught => simp [lesson]

/-- Every move keeps calls confined. -/
theorem IsConfined.move (confined : IsConfined schemes traffic) (move : Move Conf State) :
    IsConfined schemes (traffic.move schemes move) := by
  cases move with
  | reconfigure | setPreemptive | disturb =>
      exact
        { calls := confined.calls, remembered := confined.remembered, taught := confined.taught }
  | start number request => exact confined.start number request
  | resume number reply => exact confined.resume number reply

theorem IsConfined.run (confined : IsConfined schemes traffic) (moves : List (Move Conf State)) :
    IsConfined schemes (traffic.run schemes moves) := by
  induction moves generalizing traffic with
  | nil => exact confined
  | cons move moves induction => exact induction (confined.move move)

theorem IsConfined.exists_answer (confined : IsConfined schemes traffic) {origin : Origin}
    {handle : Handle} (known : traffic.scene.1.remembered.find? origin = some handle) :
    ∃ earlier turn later response, traffic.history = earlier ++ turn :: later ∧
      turn.Answers origin handle response ∧ response.isUnauthorized = false ∧
        ∀ late ∈ later, late.lesson? origin = none := by
  rw [confined.taught, Option.join_eq_some_iff, List.getLast?_eq_some_iff] at known
  obtain ⟨before, taught⟩ := known
  obtain ⟨earlier, rest, split, -, last⟩ := List.filterMap_eq_append_iff.mp taught
  obtain ⟨silent, turn, later, rfl, -, lesson, none_later⟩ := List.filterMap_eq_cons_iff.mp last
  obtain ⟨response, answers, accepted⟩ := Turn.answers_of_lesson lesson
  refine ⟨earlier ++ silent, turn, later, response, by simp [split], answers, accepted, ?_⟩
  simpa [List.filterMap_eq_nil_iff] using none_later

/-- On a transport that starts without anything remembered every request goes where its caller sent
it.  It carries the credentials of its caller, or else only such as the schemes gave for a refusal
from its origin.  A handle that is remembered helped when it was sent to its origin, and nothing
that was sent there again has been answered since, let alone refused. -/
theorem run_confined (schemes : Exchange.Schemes Conf State) (config : Option Conf)
    (preemptive : Bool) (state : State) (moves : List (Move Conf State)) :
    let traffic := (start ({ config, preemptive, remembered := .empty }, state)).run schemes moves
    (∀ number call, traffic.calls number = some call →
      call.exchange.request.url = call.original.url ∧
      (call.original.authorization ≠ [] →
        call.exchange.request.authorization = call.original.authorization) ∧
      (call.original.authorization = [] → ∀ value ∈ call.exchange.request.authorization,
        ∃ handle, handle.headerValue = value ∧
          ∃ turn ∈ traffic.history, turn.Grants schemes call.original.url.origin handle)) ∧
    ∀ origin handle, traffic.scene.1.remembered.find? origin = some handle →
      ∃ earlier turn later response, traffic.history = earlier ++ turn :: later ∧
        turn.Answers origin handle response ∧ response.isUnauthorized = false ∧
        ∀ late ∈ later, ∀ other response, ¬late.Answers origin other response := by
  intro traffic
  have confined : IsConfined schemes traffic := (isConfined_start config preemptive state).run moves
  refine ⟨?_, ?_⟩
  · intro number call started
    have call_confined := confined.calls number call started
    refine ⟨call_confined.url, fun owned => (call_confined.own owned).1,
      fun bare value carried => ?_⟩
    obtain ⟨handle, isGranted, same⟩ := call_confined.given bare value carried
    exact ⟨handle, same, isGranted⟩
  · intro origin handle known
    obtain ⟨earlier, turn, later, response, split, answers, accepted, silent⟩ :=
      confined.exists_answer known
    refine ⟨earlier, turn, later, response, split, answers, accepted, ?_⟩
    intro late isLate other response lateAnswers
    have taught := silent late isLate
    rw [Turn.lesson_of_answers lateAnswers] at taught
    cases taught

end Traffic
end Countersign
