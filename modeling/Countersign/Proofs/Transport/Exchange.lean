import Countersign.Proofs.Action
import Countersign.Proofs.Http.Message
import Countersign.Transport.Basic

/-!
# What an exchange does between two waits

An exchange begins and goes on in one of a few ways, each told by what was remembered, by the reply
and by the answer of the schemes.  What was remembered changes only by the answer to credentials.
-/

namespace Countersign
namespace Exchange

variable {Conf State : Type}

theorem send_apply (attempt : Attempt) (exchange : Exchange) (scene : Scene Conf State) :
    send attempt exchange scene =
      { result := .ok exchange, state := scene
        events := [.sent attempt exchange.request] } := rfl

/-- Only what is remembered for an origin is sent there without being asked for. -/
theorem find?_of_attachment {transport : Transport Conf} {origin : Origin} {handle : Handle}
    (attaches : attachment transport origin = some handle) :
    transport.remembered.find? origin = some handle := by
  rw [attachment] at attaches
  split at attaches
  · exact attaches
  · cases attaches

/-- The ways in which an exchange begins. -/
inductive Begun (scene : Scene Conf State) (request : Request) :
    Outcome (Scene Conf State) Exchange → Prop
  | own : request.authorization ≠ [] →
      Begun scene request
        { result := .ok { request, origin := request.url.origin, stage := .passing }, state := scene
          events := [.sent .first request] }
  | unshowable (fault : Label.Fault) : request.authorization = [] → request.url.fault = some fault →
      Begun scene request
        { result := .ok
            { request, origin := request.url.origin
              stage := .finished (.error (.unshowable fault)) }
          state := scene, events := [] }
  | bare : request.authorization = [] → request.url.fault = none →
      attachment scene.1 request.url.origin = none →
      Begun scene request
        { result := .ok { request, origin := request.url.origin, stage := .reading none }
          state := scene, events := [] }
  | unsendable (handle : Handle) (fault : Ascii.Fault) : request.authorization = [] →
      request.url.fault = none → attachment scene.1 request.url.origin = some handle →
      Ascii.fault? handle.headerValue = some fault →
      Begun scene request
        { result := .ok
            { request, origin := request.url.origin
              stage := .finished (.error (.unsendable fault)) }
          state := scene, events := [] }
  | attached (handle : Handle) : request.authorization = [] → request.url.fault = none →
      attachment scene.1 request.url.origin = some handle →
      Ascii.fault? handle.headerValue = none →
      Begun scene request
        { result := .ok
            { request := request.withAuthorization handle.headerValue
              origin := request.url.origin
              stage := .reading (some handle.headerValue) }
          state := scene
          events := [.noted (.attaching request.method request.url)] }

theorem begin_spec (scene : Scene Conf State) (request : Request) :
    Begun scene request (Exchange.begin request scene) := by
  by_cases own : request.authorization = []
  · cases fault : request.url.fault with
    | some shown =>
        simp only [Exchange.begin, own, fault, Action.pure_apply, ne_eq, not_true_eq_false,
          if_false]
        exact .unshowable shown own fault
    | none =>
        cases attaches : attachment scene.1 request.url.origin with
        | none =>
            simp only [Exchange.begin, own, fault, attaches, Action.bind_apply, Action.pure_apply,
              Action.current_apply, ne_eq, not_true_eq_false, if_false]
            exact .bare own fault attaches
        | some handle =>
            cases sendable : Ascii.fault? handle.headerValue with
            | none =>
                simp only [Exchange.begin, own, fault, attaches, Action.bind_apply,
                  Action.pure_apply, Action.current_apply, Action.note_apply,
                  request.authorize_of_sendable sendable, ne_eq, not_true_eq_false, if_false]
                exact .attached handle own fault attaches sendable
            | some unsendable =>
                simp only [Exchange.begin, own, fault, attaches, Action.bind_apply,
                  Action.pure_apply, Action.current_apply,
                  request.authorize_of_fault sendable, ne_eq, not_true_eq_false, if_false]
                exact .unsendable handle unsendable own fault attaches sendable
  · simp only [Exchange.begin, own, send_apply, ne_eq, not_false_eq_true, if_true]
    exact .own own

/-- Whether a reply is one that an exchange waits for. -/
def Stage.awaits : Stage → Reply → Bool
  | .passing, .response _ | .passing, .failed _ => true
  | .reading _, .ready | .reading _, .failed _ => true
  | .sending _, .response _ | .sending _, .failed _ => true
  | .closing _, .ready | .closing _, .failed _ => true
  | .resending _, .response _ | .resending _, .failed _ => true
  | _, _ => false

/-- The ways in which an exchange goes on after a wait. -/
inductive Resumed (schemes : Schemes Conf State) (scene : Scene Conf State) :
    Exchange → Reply → Outcome (Scene Conf State) Exchange → Prop
  | rest (exchange : Exchange) (reply : Reply) : exchange.stage.awaits reply = false →
      Resumed schemes scene exchange reply { result := .ok exchange, state := scene, events := [] }
  | passed (request : Request) (origin : Origin) (response : Response) :
      Resumed schemes scene { request, origin, stage := .passing } (.response response)
        { result := .ok { request, origin, stage := .finished (.ok response) }, state := scene
          events := [.answered .first response] }
  | failed (request : Request) (origin : Origin) (stage : Stage) (failure : Failure) :
      stage.awaits (.failed failure) →
      Resumed schemes scene { request, origin, stage } (.failed failure)
        { result := .ok { request, origin, stage := .finished (.error failure) }, state := scene
          events := [] }
  | read (request : Request) (origin : Origin) (attached : Option String) :
      Resumed schemes scene { request, origin, stage := .reading attached } .ready
        { result := .ok { request := request.buffer, origin, stage := .sending attached }
          state := scene
          events := [.sent .first request.buffer] }
  | settled (request : Request) (origin : Origin) (attached : Option String) (response : Response) :
      response.isUnauthorized = false ∨ response.challenges = [] →
      Resumed schemes scene { request, origin, stage := .sending attached } (.response response)
        { result := .ok { request, origin, stage := .finished (.ok response) }, state := scene
          events := [.answered .first response] }
  | broken (request : Request) (origin : Origin) (attached : Option String) (response : Response)
      (failure : Failure) (after : State) (events : List Event) :
      response.isUnauthorized → response.challenges ≠ [] →
      schemes response.challenges scene.1.config scene.2 =
        { result := .error failure, state := after, events } →
      Resumed schemes scene { request, origin, stage := .sending attached } (.response response)
        { result := .ok { request, origin, stage := .finished (.error failure) }
          state := (scene.1, after)
          events := .answered .first response :: .consulted response.challenges :: events }
  | unanswered (request : Request) (origin : Origin) (attached : Option String)
      (response : Response) (after : State) (events : List Event) :
      response.isUnauthorized → response.challenges ≠ [] →
      schemes response.challenges scene.1.config scene.2 =
        { result := .ok none, state := after, events } →
      Resumed schemes scene { request, origin, stage := .sending attached } (.response response)
        { result := .ok { request, origin, stage := .finished (.ok response) }
          state := (scene.1, after)
          events := .answered .first response :: .consulted response.challenges :: events }
  | repeated (request : Request) (origin : Origin) (handle : Handle) (response : Response)
      (after : State) (events : List Event) :
      response.isUnauthorized → response.challenges ≠ [] →
      schemes response.challenges scene.1.config scene.2 =
        { result := .ok (some handle), state := after, events } →
      Resumed schemes scene { request, origin, stage := .sending (some handle.headerValue) }
        (.response response)
        { result := .ok { request, origin, stage := .finished (.ok response) }
          state := (scene.1, after)
          events := .answered .first response :: .consulted response.challenges ::
            (events ++ [.granted handle]) }
  | answering (request : Request) (origin : Origin) (attached : Option String) (handle : Handle)
      (response : Response) (after : State) (events : List Event) :
      response.isUnauthorized → response.challenges ≠ [] →
      schemes response.challenges scene.1.config scene.2 =
        { result := .ok (some handle), state := after, events } →
      attached ≠ some handle.headerValue →
      Resumed schemes scene { request, origin, stage := .sending attached } (.response response)
        { result := .ok { request, origin, stage := .closing handle }
          state := (scene.1, after)
          events := .answered .first response :: .consulted response.challenges ::
            (events ++ [.granted handle, .noted (.answering handle.realm request.method
              request.url)]) }
  | unsendable (request : Request) (origin : Origin) (handle : Handle) (fault : Ascii.Fault) :
      Ascii.fault? handle.headerValue = some fault →
      Resumed schemes scene { request, origin, stage := .closing handle } .ready
        { result := .ok { request, origin, stage := .finished (.error (.unsendable fault)) }
          state := scene
          events := [.closed .first] }
  | resent (request : Request) (origin : Origin) (handle : Handle) :
      Ascii.fault? handle.headerValue = none →
      Resumed schemes scene { request, origin, stage := .closing handle } .ready
        { result := .ok
            { request := request.withAuthorization handle.headerValue, origin
              stage := .resending handle }
          state := scene
          events := [.closed .first,
            .sent .second (request.withAuthorization handle.headerValue)] }
  | rejected (request : Request) (origin : Origin) (handle : Handle) (response : Response) :
      response.isUnauthorized →
      Resumed schemes scene { request, origin, stage := .resending handle } (.response response)
        { result := .ok { request, origin, stage := .finished (.ok response) }
          state :=
            ({ scene.1 with remembered := scene.1.remembered.erase origin }, scene.2)
          events := [.answered .second response,
            .noted (.rejected handle.realm request.url.origin.host)] }
  | accepted (request : Request) (origin : Origin) (handle : Handle) (response : Response) :
      response.isUnauthorized = false →
      Resumed schemes scene { request, origin, stage := .resending handle } (.response response)
        { result := .ok { request, origin, stage := .finished (.ok response) }
          state :=
            ({ scene.1 with remembered := scene.1.remembered.insert origin handle }, scene.2)
          events := [.answered .second response] }

section Consult

variable {schemes : Schemes Conf State} {scene : Scene Conf State} {challenges : List String}
  {after : State} {events : List Event}

theorem consult_of_error {failure : Failure}
    (consulted : schemes challenges scene.1.config scene.2 =
      { result := .error failure, state := after, events }) :
    consult schemes challenges scene =
      { result := .error failure, state := (scene.1, after)
        events := .consulted challenges :: events } := by
  simp [consult, Action.bind_apply, consulted]

theorem consult_of_none
    (consulted : schemes challenges scene.1.config scene.2 =
      { result := .ok none, state := after, events }) :
    consult schemes challenges scene =
      { result := .ok none, state := (scene.1, after)
        events := .consulted challenges :: events } := by
  simp [consult, Action.bind_apply, consulted, Action.pure_apply]

theorem consult_of_some {handle : Handle}
    (consulted : schemes challenges scene.1.config scene.2 =
      { result := .ok (some handle), state := after, events }) :
    consult schemes challenges scene =
      { result := .ok (some handle), state := (scene.1, after)
        events := .consulted challenges :: (events ++ [.granted handle]) } := by
  simp [consult, Action.bind_apply, consulted, Except.map]

end Consult

theorem receive_spec (schemes : Schemes Conf State) (scene : Scene Conf State) (request : Request)
    (origin : Origin) (attached : Option String) (response : Response) :
    Resumed schemes scene { request, origin, stage := .sending attached } (.response response)
      (receive schemes { request, origin, stage := .sending attached } attached response
        scene) := by
  by_cases plain : response.isUnauthorized = false ∨ response.challenges = []
  · have stands : (!response.isUnauthorized || response.challenges.isEmpty) = true := by
      simpa using plain
    simp only [receive, Action.bind_apply, Action.emit_apply, stands, if_true, Action.pure_apply]
    exact .settled request origin attached response plain
  · obtain ⟨unauthorized, challenged⟩ := not_or.mp plain
    rw [Bool.not_eq_false] at unauthorized
    have asks : (!response.isUnauthorized || response.challenges.isEmpty) = false := by
      simpa [unauthorized] using challenged
    rcases consulted : schemes response.challenges scene.1.config scene.2 with
      ⟨failure | _ | handle, after, events⟩
    · have done := Resumed.broken request origin attached response failure after events unauthorized
        challenged consulted
      simpa [receive, Action.bind_apply, asks, consult_of_error consulted,
        Action.pure_apply, finish] using done
    · have done := Resumed.unanswered request origin attached response after events unauthorized
        challenged consulted
      simpa [receive, Action.bind_apply, asks, consult_of_none consulted,
        Action.pure_apply, finish] using done
    · by_cases same : attached = some handle.headerValue
      · subst same
        have done := Resumed.repeated request origin handle response after events unauthorized
          challenged consulted
        simpa [receive, Action.bind_apply, asks, consult_of_some consulted,
        Action.pure_apply, finish] using done
      · have done := Resumed.answering request origin attached handle response after events
          unauthorized challenged consulted same
        simpa [receive, Action.bind_apply, asks, consult_of_some consulted, same,
          Except.map] using done

theorem resume_spec (schemes : Schemes Conf State) (scene : Scene Conf State) (exchange : Exchange)
    (reply : Reply) :
    Resumed schemes scene exchange reply (exchange.resume schemes reply scene) := by
  obtain ⟨request, origin, stage⟩ := exchange
  cases waiting : stage.awaits reply with
  | false =>
      have rests : (Exchange.resume schemes { request, origin, stage } reply scene) =
          { result := .ok { request, origin, stage }, state := scene, events := [] } := by
        cases stage <;> cases reply <;> first | rfl | cases waiting
      rw [rests]
      exact .rest _ _ waiting
  | true =>
      cases reply with
      | failed failure =>
          cases stage with
          | finished => cases waiting
          | passing | reading | sending | closing | resending =>
              exact .failed request origin _ failure rfl
      | ready =>
          cases stage with
          | passing | sending | resending | finished => cases waiting
          | reading attached => exact .read request origin attached
          | closing handle =>
              cases sendable : Ascii.fault? handle.headerValue with
              | none =>
                  simp only [resume, Action.bind_apply, Action.emit_apply, send_apply,
                    request.authorize_of_sendable sendable]
                  exact .resent request origin handle sendable
              | some fault =>
                  simp only [resume, Action.bind_apply, Action.emit_apply, Action.pure_apply,
                    request.authorize_of_fault sendable]
                  exact .unsendable request origin handle fault sendable
      | response response =>
          cases stage with
          | passing => exact .passed request origin response
          | reading | closing | finished => cases waiting
          | sending attached => exact receive_spec schemes scene request origin attached response
          | resending handle =>
              cases refused : response.isUnauthorized with
              | true =>
                  simp only [resume, learn, Action.bind_apply, Action.emit_apply, Action.note_apply,
                    Action.change_apply, Action.pure_apply, refused, if_true]
                  exact .rejected request origin handle response refused
              | false =>
                  simp only [resume, learn, Action.bind_apply, Action.emit_apply,
                    Action.change_apply, Action.pure_apply, refused, Bool.false_eq_true, if_false]
                  exact .accepted request origin handle response refused

end Exchange
end Countersign
