import Countersign.Proofs.Transport.Course

/-!
# Accounts of exchanges

An account of an exchange tells what it did itself before and after its schemes were asked, what
they did in between, and how it ended.  An exchange has one of a few accounts, told by its request,
by what was remembered, by the wire and by the answer of the schemes.
-/

namespace Countersign
namespace Exchange

variable {Conf State : Type}

/-- What an exchange of a request to an origin came to. -/
structure Account (Conf State : Type) where
  /-- What the exchange did up to asking the schemes, or altogether if it did not ask them. -/
  before : List Event
  /-- What the schemes did. -/
  meanwhile : List Event
  /-- What the exchange did after the schemes had ended. -/
  after : List Event
  /-- The request at the end. -/
  request : Request
  /-- Where the request was to go at first. -/
  origin : Origin
  /-- The response that was returned, or why there is none. -/
  result : Except Failure Response
  /-- What the transport and the schemes then hold. -/
  scene : Scene Conf State

namespace Account

/-- What an exchange did itself. -/
def own (account : Account Conf State) : List Event :=
  account.before ++ account.after

/-- The outcome of an exchange with an account. -/
def outcome (account : Account Conf State) : Outcome (Scene Conf State) Exchange :=
  { result := .ok
      { request := account.request, origin := account.origin, stage := .finished account.result }
    state := account.scene
    events := account.before ++ (account.meanwhile ++ account.after) }

end Account

/-- The value that is attached to a request without being asked for. -/
def attached? (scene : Scene Conf State) (request : Request) : Option String :=
  (attachment scene.1 request.url.origin).map (·.headerValue)

/-- A request with what is attached to it. -/
def carrying (scene : Scene Conf State) (request : Request) : Request :=
  ((attached? scene request).map request.withAuthorization).getD request

/-- What has become of a request with what is attached to it once it has gone out. -/
def remnant (wire : Wire) (scene : Scene Conf State) (request : Request) : Request :=
  wire.left .first (carrying scene request).buffer

/-- The line about what is attached to a request. -/
def opening (scene : Scene Conf State) (request : Request) : List Event :=
  ((attached? scene request).map fun _ => .noted (.attaching request.method request.url)).toList

/-- Whether a request without credentials of its own can be made ready to be sent. -/
structure IsPrepared (scene : Scene Conf State) (request : Request) : Prop where
  bare : request.authorization = []
  shown : request.url.fault = none
  sendable : ∀ value, attached? scene request = some value → Ascii.fault? value = none

/-- Whether the first answer to a request asks for credentials. -/
structure IsChallenged (wire : Wire) (scene : Scene Conf State) (request : Request)
    (response : Response) : Prop extends IsPrepared scene request where
  readable : wire.unreadable = none
  answered : wire.answer .first (carrying scene request).buffer = .ok response
  unauthorized : response.isUnauthorized
  challenged : response.challenges ≠ []

/-- What the exchange of a challenged request did up to asking the schemes. -/
def challenge (scene : Scene Conf State) (request : Request) (response : Response) : List Event :=
  opening scene request ++
    [.sent .first (carrying scene request).buffer, .answered .first response,
      .consulted response.challenges]

/-- The accounts of an exchange from the point at which it is to send a handle. -/
inductive Resent (wire : Wire) (scene : Scene Conf State) (origin : Origin) (request : Request)
    (handle : Handle) : Account Conf State → Prop
  | unclosable (failure : Failure) : wire.unclosable = some failure →
      Resent wire scene origin request handle
        { before := [], meanwhile := [], after := [], request, origin, result := .error failure
          scene }
  | unsendable (fault : Ascii.Fault) : wire.unclosable = none →
      Ascii.fault? handle.headerValue = some fault →
      Resent wire scene origin request handle
        { before := [], meanwhile := [], after := [.closed .first], request, origin
          result := .error (.unsendable fault), scene }
  | unanswered (failure : Failure) : wire.unclosable = none →
      Ascii.fault? handle.headerValue = none →
      wire.answer .second (request.withAuthorization handle.headerValue) = .error failure →
      Resent wire scene origin request handle
        { before := [], meanwhile := []
          after := [.closed .first, .sent .second (request.withAuthorization handle.headerValue)]
          request := wire.left .second (request.withAuthorization handle.headerValue)
          origin
          result := .error failure
          scene }
  | rejected (response : Response) : wire.unclosable = none →
      Ascii.fault? handle.headerValue = none →
      wire.answer .second (request.withAuthorization handle.headerValue) = .ok response →
      response.isUnauthorized →
      Resent wire scene origin request handle
        { before := [], meanwhile := []
          after := [.closed .first, .sent .second (request.withAuthorization handle.headerValue),
            .answered .second response,
            .noted (.rejected handle.realm
              (wire.left .second (request.withAuthorization handle.headerValue)).url.origin.host)]
          request := wire.left .second (request.withAuthorization handle.headerValue)
          origin
          result := .ok response
          scene := ({ scene.1 with remembered := scene.1.remembered.erase origin }, scene.2) }
  | accepted (response : Response) : wire.unclosable = none →
      Ascii.fault? handle.headerValue = none →
      wire.answer .second (request.withAuthorization handle.headerValue) = .ok response →
      response.isUnauthorized = false →
      Resent wire scene origin request handle
        { before := [], meanwhile := []
          after := [.closed .first, .sent .second (request.withAuthorization handle.headerValue),
            .answered .second response]
          request := wire.left .second (request.withAuthorization handle.headerValue)
          origin
          result := .ok response
          scene :=
            ({ scene.1 with remembered := scene.1.remembered.insert origin handle }, scene.2) }

/-- The accounts of an exchange. -/
inductive Performed (schemes : Schemes Conf State) (wire : Wire) (scene : Scene Conf State)
    (request : Request) : Account Conf State → Prop
  | passed (response : Response) : request.authorization ≠ [] →
      wire.answer .first request = .ok response →
      Performed schemes wire scene request
        { before := [.sent .first request, .answered .first response], meanwhile := [], after := []
          request := wire.left .first request, origin := request.url.origin
          result := .ok response, scene }
  | unpassed (failure : Failure) : request.authorization ≠ [] →
      wire.answer .first request = .error failure →
      Performed schemes wire scene request
        { before := [.sent .first request], meanwhile := [], after := []
          request := wire.left .first request, origin := request.url.origin
          result := .error failure, scene }
  | unprepared (failure : Failure) : request.authorization = [] → ¬IsPrepared scene request →
      Performed schemes wire scene request
        { before := [], meanwhile := [], after := [], request, origin := request.url.origin
          result := .error failure, scene }
  | unread (failure : Failure) : IsPrepared scene request → wire.unreadable = some failure →
      Performed schemes wire scene request
        { before := opening scene request, meanwhile := [], after := []
          request := carrying scene request, origin := request.url.origin
          result := .error failure, scene }
  | unanswered (failure : Failure) : IsPrepared scene request → wire.unreadable = none →
      wire.answer .first (carrying scene request).buffer = .error failure →
      Performed schemes wire scene request
        { before := opening scene request ++ [.sent .first (carrying scene request).buffer]
          meanwhile := [], after := [], request := remnant wire scene request
          origin := request.url.origin, result := .error failure, scene }
  | settled (response : Response) : IsPrepared scene request → wire.unreadable = none →
      wire.answer .first (carrying scene request).buffer = .ok response →
      response.isUnauthorized = false ∨ response.challenges = [] →
      Performed schemes wire scene request
        { before := opening scene request ++
            [.sent .first (carrying scene request).buffer, .answered .first response]
          meanwhile := [], after := [], request := remnant wire scene request
          origin := request.url.origin, result := .ok response, scene }
  | broken (response : Response) (failure : Failure) (state : State) (events : List Event) :
      IsChallenged wire scene request response →
      schemes response.challenges scene.1.config scene.2 =
        { result := .error failure, state, events } →
      Performed schemes wire scene request
        { before := challenge scene request response, meanwhile := events, after := []
          request := remnant wire scene request, origin := request.url.origin
          result := .error failure, scene := (scene.1, state) }
  | unhelped (response : Response) (state : State) (events : List Event) :
      IsChallenged wire scene request response →
      schemes response.challenges scene.1.config scene.2 =
        { result := .ok none, state, events } →
      Performed schemes wire scene request
        { before := challenge scene request response, meanwhile := events, after := []
          request := remnant wire scene request, origin := request.url.origin
          result := .ok response, scene := (scene.1, state) }
  | repeated (response : Response) (handle : Handle) (state : State) (events : List Event) :
      IsChallenged wire scene request response →
      schemes response.challenges scene.1.config scene.2 =
        { result := .ok (some handle), state, events } →
      attached? scene request = some handle.headerValue →
      Performed schemes wire scene request
        { before := challenge scene request response, meanwhile := events
          after := [.granted handle], request := remnant wire scene request
          origin := request.url.origin, result := .ok response, scene := (scene.1, state) }
  | resent (response : Response) (handle : Handle) (state : State) (events : List Event)
      (rest : Account Conf State) :
      IsChallenged wire scene request response →
      schemes response.challenges scene.1.config scene.2 =
        { result := .ok (some handle), state, events } →
      attached? scene request ≠ some handle.headerValue →
      Resent wire (scene.1, state) request.url.origin (remnant wire scene request) handle rest →
      Performed schemes wire scene request
        { rest with
          before := challenge scene request response, meanwhile := events
          after := .granted handle ::
            .noted (.answering handle.realm (remnant wire scene request).method
              (remnant wire scene request).url) :: rest.after }

section Parts

variable (schemes : Schemes Conf State) (wire : Wire) (scene : Scene Conf State)
  (request : Request)

@[simp]
theorem url_carrying : (carrying scene request).url = request.url := by
  rw [carrying]
  cases attached? scene request <;> rfl

@[simp]
theorem method_carrying : (carrying scene request).method = request.method := by
  rw [carrying]
  cases attached? scene request <;> rfl

/-- An exchange that goes on to its end stays there. -/
theorem proceed_of_finished {schemes : Schemes Conf State} {wire : Wire}
    {scene late : Scene Conf State} {exchange : Exchange} {request : Request} {origin : Origin}
    {result : Except Failure Response} {events : List Event}
    (goes : (wire.touch exchange).resume schemes (wire.reply exchange) scene =
      { result := .ok { request, origin, stage := .finished result }, state := late, events })
    (steps : Nat) :
    proceed schemes wire (steps + 1) exchange scene =
      { result := .ok { request, origin, stage := .finished result }, state := late, events } := by
  rw [proceed_succ goes, proceed_finished]
  simp [Outcome.after]

/-- A request either is made ready or fails before anything is done. -/
theorem begin_of_bare (bare : request.authorization = []) :
    (IsPrepared scene request ∧
        Exchange.begin request scene =
          { result := .ok
              { request := carrying scene request, origin := request.url.origin
                stage := .reading (attached? scene request) }
            state := scene
            events := opening scene request }) ∨
      (¬IsPrepared scene request ∧ ∃ failure,
        Exchange.begin request scene =
          { result := .ok
              { request, origin := request.url.origin, stage := .finished (.error failure) }
            state := scene
            events := [] }) := by
  have begun := begin_spec scene request
  generalize Exchange.begin request scene = outcome at begun
  cases begun with
  | own own => exact absurd bare own
  | unshowable fault _ faulty =>
      refine .inr ⟨fun prepared => ?_, _, rfl⟩
      rw [prepared.shown] at faulty
      cases faulty
  | bare _ shown unattached =>
      have nothing : attached? scene request = none := by simp [attached?, unattached]
      refine .inl ⟨{ bare, shown, sendable := by simp [nothing] }, ?_⟩
      simp [carrying, opening, nothing]
  | unsendable handle fault _ shown attaches faulty =>
      have value : attached? scene request = some handle.headerValue := by
        simp [attached?, attaches]
      refine .inr ⟨fun prepared => ?_, _, rfl⟩
      rw [prepared.sendable _ value] at faulty
      cases faulty
  | attached handle _ shown attaches sendable =>
      have value : attached? scene request = some handle.headerValue := by
        simp [attached?, attaches]
      refine .inl ⟨{ bare, shown, sendable := by simpa [value] using sendable }, ?_⟩
      simp [carrying, opening, value]

/-- An exchange that is to send a handle has one of the accounts for that. -/
theorem exists_resent (origin : Origin) (handle : Handle) :
    ∃ account, Resent wire scene origin request handle account ∧
      proceed schemes wire 2 { request, origin, stage := .closing handle } scene =
        account.outcome := by
  cases closes : wire.unclosable with
  | some failure =>
      refine ⟨_, .unclosable failure closes, ?_⟩
      apply proceed_of_finished
      simp only [Wire.reply, closes, Wire.done]
      rfl
  | none =>
      cases sendable : Ascii.fault? handle.headerValue with
      | some fault =>
          refine ⟨_, .unsendable fault closes sendable, ?_⟩
          apply proceed_of_finished
          simp only [Wire.reply, Wire.touch, closes, Wire.done, resume, Action.bind_apply,
            Action.emit_apply, Action.pure_apply, request.authorize_of_fault sendable]
          rfl
      | none =>
          generalize again_eq : request.withAuthorization handle.headerValue = again
          have goes : resume schemes { request, origin, stage := .closing handle }
              (wire.reply { request, origin, stage := .closing handle }) scene =
                { result := .ok { request := again, origin, stage := .resending handle }
                  state := scene
                  events := [.closed .first, .sent .second again] } := by
            simp [Wire.reply, closes, Wire.done, resume, Action.bind_apply, send_apply,
              request.authorize_of_sendable sendable, again_eq]
          rw [proceed_succ goes]
          cases answers : wire.answer .second again with
          | error failure =>
              rw [← again_eq] at answers
              refine ⟨_, .unanswered failure closes sendable answers, ?_⟩
              rw [again_eq] at answers ⊢
              rw [proceed_of_finished (by simp only [Wire.reply, answers, Wire.received]; rfl)]
              rfl
          | ok response =>
              rw [← again_eq] at answers
              cases refused : response.isUnauthorized with
              | true =>
                  refine ⟨_, .rejected response closes sendable answers refused, ?_⟩
                  rw [again_eq] at answers ⊢
                  rw [proceed_of_finished (by
                    simp only [Wire.reply, Wire.touch, answers, Wire.received, resume, learn,
                      refused, if_true, Action.bind_apply, Action.emit_apply, Action.note_apply,
                      Action.change_apply, Action.pure_apply]
                    rfl)]
                  rfl
              | false =>
                  refine ⟨_, .accepted response closes sendable answers refused, ?_⟩
                  rw [again_eq] at answers ⊢
                  rw [proceed_of_finished (by
                    simp only [Wire.reply, Wire.touch, answers, Wire.received, resume, learn,
                      refused, Bool.false_eq_true, if_false, Action.bind_apply, Action.emit_apply,
                      Action.change_apply, Action.pure_apply]
                    rfl)]
                  rfl

/-- An exchange whose request is ready and can be read has sent it. -/
theorem perform_of_prepared {schemes : Schemes Conf State} {wire : Wire}
    {scene : Scene Conf State} {request : Request} (prepared : IsPrepared scene request)
    (readable : wire.unreadable = none) :
    perform schemes wire request scene =
      (proceed schemes wire 3
        { request := (carrying scene request).buffer, origin := request.url.origin
          stage := .sending (attached? scene request) } scene).after
        (opening scene request ++ [.sent .first (carrying scene request).buffer]) := by
  rcases begin_of_bare scene request prepared.bare with ⟨-, begun⟩ | ⟨unprepared, -⟩
  · have goes : resume schemes
        { request := carrying scene request, origin := request.url.origin
          stage := .reading (attached? scene request) }
        (wire.reply
          { request := carrying scene request, origin := request.url.origin
            stage := .reading (attached? scene request) })
        scene =
          { result := .ok
              { request := (carrying scene request).buffer, origin := request.url.origin
                stage := .sending (attached? scene request) }
            state := scene
            events := [.sent .first (carrying scene request).buffer] } := by
      simp only [Wire.reply, readable, Wire.done]
      rfl
    rw [perform_eq_proceed, Action.bind_of_ok (by rw [begun]), begun, proceed_succ goes,
      Outcome.after_after]
  · exact absurd prepared unprepared

/-- An exchange whose request has been answered has one of the accounts. -/
theorem exists_performed_of_answered (prepared : IsPrepared scene request)
    (readable : wire.unreadable = none) {response : Response}
    (answered : wire.answer .first (carrying scene request).buffer = .ok response) :
    ∃ account, Performed schemes wire scene request account ∧
      (proceed schemes wire 3
        { request := (carrying scene request).buffer, origin := request.url.origin
          stage := .sending (attached? scene request) } scene).after
        (opening scene request ++ [.sent .first (carrying scene request).buffer]) =
          account.outcome := by
  have replied : wire.reply
      { request := (carrying scene request).buffer, origin := request.url.origin
        stage := .sending (attached? scene request) } = .response response := by
    simp only [Wire.reply, answered, Wire.received]
  generalize attached_eq : attached? scene request = attached at replied ⊢
  have resumed := resume_spec schemes scene
    { request := remnant wire scene request, origin := request.url.origin
      stage := .sending attached } (.response response)
  generalize goes : resume schemes
    { request := remnant wire scene request, origin := request.url.origin
      stage := .sending attached } (.response response) scene = outcome at resumed
  rw [← replied] at goes
  cases resumed with
  | rest _ _ waiting => cases waiting
  | settled _ _ _ _ plain =>
      refine ⟨_, .settled response prepared readable answered plain, ?_⟩
      rw [proceed_of_finished goes]
      simp [Account.outcome, Outcome.after]
  | broken _ _ _ _ failure state events unauthorized challenged consulted =>
      refine ⟨_, .broken response failure state events
        { prepared with readable, answered, unauthorized, challenged } consulted, ?_⟩
      rw [proceed_of_finished goes]
      simp [Account.outcome, Outcome.after, challenge]
  | unanswered _ _ _ _ state events unauthorized challenged consulted =>
      refine ⟨_, .unhelped response state events
        { prepared with readable, answered, unauthorized, challenged } consulted, ?_⟩
      rw [proceed_of_finished goes]
      simp [Account.outcome, Outcome.after, challenge]
  | repeated _ _ handle _ state events unauthorized challenged consulted =>
      refine ⟨_, .repeated response handle state events
        { prepared with readable, answered, unauthorized, challenged } consulted attached_eq, ?_⟩
      rw [proceed_of_finished goes]
      simp [Account.outcome, Outcome.after, challenge]
  | answering _ _ _ handle _ state events unauthorized challenged consulted different =>
      obtain ⟨rest, isResent, proceeds⟩ := exists_resent schemes wire (scene.1, state)
        (remnant wire scene request) request.url.origin handle
      refine ⟨_, .resent response handle state events rest
        { prepared with readable, answered, unauthorized, challenged } consulted
        (by rwa [attached_eq]) isResent, ?_⟩
      rw [proceed_succ goes, proceeds]
      have nothing : rest.before = [] ∧ rest.meanwhile = [] := by
        cases isResent <;> exact ⟨rfl, rfl⟩
      simp [Account.outcome, Outcome.after, challenge, nothing]

/-- An exchange has one of the accounts. -/
theorem exists_performed :
    ∃ account, Performed schemes wire scene request account ∧
      perform schemes wire request scene = account.outcome := by
  by_cases own : request.authorization = []
  · rcases begin_of_bare scene request own with ⟨prepared, begun⟩ | ⟨unprepared, failure, begun⟩
    · cases readable : wire.unreadable with
      | some failure =>
          refine ⟨_, .unread failure prepared readable, ?_⟩
          rw [perform_eq_proceed, Action.bind_of_ok (by rw [begun]), begun,
            proceed_of_finished (by simp only [Wire.reply, readable, Wire.done]; rfl)]
          rfl
      | none =>
          rw [perform_of_prepared prepared readable]
          cases answers : wire.answer .first (carrying scene request).buffer with
          | error failure =>
              refine ⟨_, .unanswered failure prepared readable answers, ?_⟩
              rw [proceed_of_finished (by simp only [Wire.reply, answers, Wire.received]; rfl)]
              rfl
          | ok response =>
              exact exists_performed_of_answered schemes wire scene request prepared readable
                answers
    · refine ⟨_, .unprepared failure own unprepared, ?_⟩
      rw [perform_eq_proceed, Action.bind_of_ok (by rw [begun]), begun, proceed_finished]
      rfl
  · have begun : Exchange.begin request scene =
        { result := .ok { request, origin := request.url.origin, stage := .passing }
          state := scene, events := [.sent .first request] } := by
      simp [Exchange.begin, own, send_apply]
    rw [perform_eq_proceed, Action.bind_of_ok (by rw [begun]), begun]
    cases answers : wire.answer .first request with
    | error failure =>
        refine ⟨_, .unpassed failure own answers, ?_⟩
        rw [proceed_of_finished (by simp only [Wire.reply, answers, Wire.received]; rfl)]
        rfl
    | ok response =>
        refine ⟨_, .passed response own answers, ?_⟩
        rw [proceed_of_finished (by simp only [Wire.reply, answers, Wire.received]; rfl)]
        rfl

end Parts

end Exchange
end Countersign
