import Countersign.Proofs.Scheme.Dispatch
import Countersign.Proofs.Silence
import Countersign.Proofs.Transport.Exchange

/-!
# The course of an exchange

With a server that judges a request by its credentials alone, and schemes whose answers are settled,
the course of an exchange is told by the credentials that are sent with it at first.  Sending
remembered credentials instead of none never makes a request fail that would have succeeded, and
never makes it be sent more often.
-/

namespace Countersign

/-- A server that judges a request by its address and the credentials that it carries. -/
structure Server where
  accepts : Url → List String → Bool
  challenges : Url → List String
  respond : Attempt → Request → Response
  /-- A request is refused unless its credentials are accepted. -/
  isUnauthorized_respond : ∀ attempt request,
    (respond attempt request).isUnauthorized = !accepts request.url request.authorization
  /-- The challenges of a refusal depend on the address alone. -/
  challenges_respond : ∀ attempt request, accepts request.url request.authorization = false →
    (respond attempt request).challenges = challenges request.url
  /-- There is a challenge. -/
  challenges_ne : ∀ url, challenges url ≠ []
  /-- What needs no credentials is given to any. -/
  accepts_any : ∀ url, accepts url [] → ∀ value, accepts url [value]

namespace Server

/-- The wire to a server, which reads the content of each request, and on which nothing breaks. -/
def wire (server : Server) : Wire :=
  { unreadable := none
    answer := fun attempt request => .ok (server.respond attempt request)
    left := fun _ request => request.spend
    unclosable := none }

/-- Whether a request is granted after it was refused with certain credentials, and how often it is
sent again. -/
def retry (server : Server) (answer : List String → Except Failure (Option Handle))
    (attached : Option String) (url : Url) : Bool × Nat :=
  match answer (server.challenges url) with
  | .error _ | .ok none => (false, 0)
  | .ok (some handle) =>
      if attached = some handle.headerValue then (false, 0)
      else (server.accepts url [handle.headerValue], 1)

/-- Whether a request without credentials of its own is granted, and how often it is sent, if these
credentials are attached to it. -/
def courseAt (server : Server) (answer : List String → Except Failure (Option Handle))
    (attached : Option String) (url : Url) : Bool × Nat :=
  if server.accepts url attached.toList then (true, 1)
  else ((server.retry answer attached url).1, (server.retry answer attached url).2 + 1)

/-- Whether a request is granted, and how often it is sent, if these credentials are there to be
attached to it. -/
def course (server : Server) (answer : List String → Except Failure (Option Handle))
    (attached : Option String) (request : Request) : Bool × Nat :=
  if request.authorization ≠ [] then (server.accepts request.url request.authorization, 1)
  else if request.url.fault.isSome then (false, 0)
  else server.courseAt answer attached request.url

theorem courseAt_some (server : Server) (answer : List String → Except Failure (Option Handle))
    (value : String) (url : Url) :
    ((server.courseAt answer none url).1 → (server.courseAt answer (some value) url).1) ∧
      (server.courseAt answer (some value) url).2 ≤ (server.courseAt answer none url).2 := by
  cases accepted : server.accepts url [value] with
  | true =>
      cases bare : server.accepts url [] with
      | true => simp [courseAt, accepted, bare]
      | false =>
          rcases answered : answer (server.challenges url) with failure | _ | handle <;>
            simp [courseAt, retry, accepted, bare, answered]
  | false =>
      have bare : server.accepts url [] = false := by
        cases bare : server.accepts url [] with
        | false => rfl
        | true =>
            have any := server.accepts_any url bare value
            rw [accepted] at any
            cases any
      rcases answered : answer (server.challenges url) with failure | _ | handle
      · simp [courseAt, retry, accepted, bare, answered]
      · simp [courseAt, retry, accepted, bare, answered]
      · by_cases same : value = handle.headerValue
        · subst same
          simp [courseAt, retry, accepted, bare, answered]
        · simp [courseAt, retry, accepted, bare, answered, same]

/-- Attaching credentials costs neither a grant nor a sending. -/
theorem course_attached (server : Server) (answer : List String → Except Failure (Option Handle))
    (attached : Option String) (request : Request) :
    ((server.course answer none request).1 → (server.course answer attached request).1) ∧
      (server.course answer attached request).2 ≤ (server.course answer none request).2 := by
  cases attached with
  | none => exact ⟨id, Nat.le_refl _⟩
  | some value =>
      by_cases own : request.authorization = []
      · cases fault : request.url.fault with
        | some fault => simp [course, own, fault]
        | none => simpa [course, own, fault] using server.courseAt_some answer value request.url
      · simp [course, own]

end Server

namespace Exchange

variable {Conf State : Type} {schemes : Schemes Conf State} {wire : Wire}
  {scene late : Scene Conf State} {exchange next : Exchange} {events : List Event}

/-- Whether an exchange ended with an answer that does not ask for credentials. -/
def isGranted (exchange : Exchange) : Bool :=
  match exchange.stage with
  | .finished (.ok response) => !response.isUnauthorized
  | _ => false

/-- Whether the request of an outcome was granted. -/
def granted (outcome : Outcome State Exchange) : Bool :=
  outcome.result.toOption.any isGranted

/-- How often a request was sent. -/
def sendings (outcome : Outcome State Exchange) : Nat :=
  (Event.requestsSent outcome.events).length

/-- Goes on for a number of waits. -/
def proceed (schemes : Schemes Conf State) (wire : Wire) : Nat → Exchange →
    Action (Scene Conf State) Exchange
  | 0, exchange => pure exchange
  | steps + 1, exchange => do
      let exchange ← exchange.advance schemes wire
      proceed schemes wire steps exchange

theorem perform_eq_proceed (schemes : Schemes Conf State) (wire : Wire) (request : Request) :
    perform schemes wire request = Exchange.begin request >>= proceed schemes wire 4 := by
  simp [perform, proceed]

theorem proceed_succ
    (resumed : (wire.touch exchange).resume schemes (wire.reply exchange) scene =
      { result := .ok next, state := late, events }) (steps : Nat) :
    proceed schemes wire (steps + 1) exchange scene =
      (proceed schemes wire steps next late).after events := by
  have advanced : exchange.advance schemes wire scene =
      { result := .ok next, state := late, events } := resumed
  rw [proceed, Action.bind_of_ok (by rw [advanced]), advanced]

theorem proceed_finished (request : Request) (origin : Origin) (result : Except Failure Response)
    (steps : Nat) :
    proceed schemes wire steps { request, origin, stage := .finished result } scene =
      { result := .ok { request, origin, stage := .finished result }, state := scene
        events := [] } := by
  induction steps with
  | zero => rfl
  | succ steps induction =>
      have rests :
          resume schemes { request, origin, stage := .finished result } .ready scene =
            { result := .ok { request, origin, stage := .finished result }, state := scene
              events := [] } :=
        rfl
      rw [proceed_succ rests, induction]
      rfl

/-- Whether the answers of schemes given a configuration are settled in states of a kind, can be
sent, and come without sending anything. -/
structure Settled (schemes : Schemes Conf State) (config : Option Conf) (holds : State → Prop)
    (answer : List String → Except Failure (Option Handle)) : Prop where
  yields : ∀ challenges, (schemes challenges config).Yields holds (answer challenges)
  silent : ∀ challenges, (schemes challenges config).IsSilent
  sendable : ∀ challenges handle, answer challenges = .ok (some handle) →
    Ascii.fault? handle.headerValue = none

/-- Whether a scene is of a kind, and everything that is remembered can be sent. -/
structure Ready (config : Option Conf) (preemptive : Bool) (holds : State → Prop)
    (scene : Scene Conf State) : Prop where
  config : scene.1.config = config
  preemptive : scene.1.preemptive = preemptive
  holds : holds scene.2
  sendable : ∀ origin handle, scene.1.remembered.find? origin = some handle →
    Ascii.fault? handle.headerValue = none

/-- Whether an outcome is as expected and leaves a scene of a kind. -/
structure Ends (config : Option Conf) (preemptive : Bool) (holds : State → Prop)
    (expected : Bool × Nat) (outcome : Outcome (Scene Conf State) Exchange) : Prop where
  granted : granted outcome = expected.1
  sent : sendings outcome = expected.2
  ready : Ready config preemptive holds outcome.state

variable {config : Option Conf} {preemptive : Bool} {holds : State → Prop}
  {answer : List String → Except Failure (Option Handle)} {server : Server}

theorem Ends.after {isGranted : Bool} {sent total : Nat} {events : List Event}
    {outcome : Outcome (Scene Conf State) Exchange}
    (ends : Ends config preemptive holds (isGranted, sent) outcome)
    (count : (Event.requestsSent events).length + sent = total) :
    Ends config preemptive holds (isGranted, total) (outcome.after events) where
  granted := ends.granted
  sent := by
    subst count
    rw [sendings, Outcome.after, Event.requestsSent_append, List.length_append]
    exact congrArg _ ends.sent
  ready := ends.ready

theorem ends_finished (ready : Ready config preemptive holds scene) (request : Request)
    (origin : Origin) (result : Except Failure Response) (steps : Nat) :
    Ends config preemptive holds (isGranted { request, origin, stage := .finished result }, 0)
      (proceed schemes wire steps { request, origin, stage := .finished result } scene) := by
  rw [proceed_finished]
  exact { granted := rfl, sent := rfl, ready }

/-- An exchange that goes on to its end is granted if its last answer does not ask for credentials.
-/
theorem ends_of_finished {request : Request} {origin : Origin}
    {result : Except Failure Response}
    (goes : (wire.touch exchange).resume schemes (wire.reply exchange) scene =
      { result := .ok { request, origin, stage := .finished result }, state := late, events })
    (ready : Ready config preemptive holds late) (silent : Event.requestsSent events = [])
    (steps : Nat) :
    Ends config preemptive holds (isGranted { request, origin, stage := .finished result }, 0)
      (proceed schemes wire (steps + 1) exchange scene) := by
  rw [proceed_succ goes]
  exact (ends_finished ready request origin result steps).after (by rw [silent]; rfl)

theorem isGranted_respond (server : Server) (attempt : Attempt) (request left : Request)
    (origin : Origin) :
    isGranted
        { request := left, origin, stage := .finished (.ok (server.respond attempt request)) } =
      server.accepts request.url request.authorization := by
  change (!(server.respond attempt request).isUnauthorized) = _
  rw [server.isUnauthorized_respond, Bool.not_not]

theorem ends_resending (ready : Ready config preemptive holds scene) (request : Request)
    (origin : Origin) {handle : Handle} (sendable : Ascii.fault? handle.headerValue = none) :
    Ends config preemptive holds (server.accepts request.url request.authorization, 0)
      (proceed schemes server.wire 1 { request, origin, stage := .resending handle } scene) := by
  have resumed := resume_spec schemes scene
    { request := request.spend, origin, stage := .resending handle }
    (.response (server.respond .second request))
  generalize goes : resume schemes { request := request.spend, origin, stage := .resending handle }
    (.response (server.respond .second request)) scene = outcome at resumed
  rw [← isGranted_respond server .second request request.spend origin]
  cases resumed with
  | rest _ _ waiting => cases waiting
  | rejected =>
      refine ends_of_finished goes ?_ rfl 0
      refine { ready with sendable := fun target other known => ?_ }
      rw [Table.find?_erase] at known
      split at known
      · cases known
      · exact ready.sendable target other known
  | accepted =>
      refine ends_of_finished goes ?_ rfl 0
      refine { ready with sendable := fun target other known => ?_ }
      rw [Table.find?_insert] at known
      split at known
      · cases known
        exact sendable
      · exact ready.sendable target other known

theorem ends_closing (ready : Ready config preemptive holds scene) (request : Request)
    (origin : Origin) {handle : Handle} (sendable : Ascii.fault? handle.headerValue = none) :
    Ends config preemptive holds (server.accepts request.url [handle.headerValue], 1)
      (proceed schemes server.wire 2 { request, origin, stage := .closing handle } scene) := by
  have resumed := resume_spec schemes scene { request, origin, stage := .closing handle } .ready
  generalize goes : resume schemes { request, origin, stage := .closing handle } .ready scene =
    outcome at resumed
  cases resumed with
  | rest _ _ waiting => cases waiting
  | unsendable _ _ _ fault unsendable =>
      rw [sendable] at unsendable
      cases unsendable
  | resent =>
      rw [proceed_succ goes]
      have ends : Ends config preemptive holds (server.accepts request.url _, 0)
          (proceed schemes server.wire 1 _ scene) :=
        ends_resending ready (request.withAuthorization handle.headerValue) origin sendable
      rw [Request.authorization_withAuthorization] at ends
      exact ends.after rfl

theorem Settled.of_consulted (settled : Settled schemes config holds answer)
    (ready : Ready config preemptive holds scene) {challenges : List String}
    {result : Except Failure (Option Handle)} {state : State}
    (consulted : schemes challenges scene.1.config scene.2 = { result, state, events }) :
    answer challenges = result ∧ Ready config preemptive holds (scene.1, state) ∧
      Event.requestsSent events = [] := by
  rw [ready.config] at consulted
  have result_eq := (settled.yields challenges).result scene.2 ready.holds
  have holds_late := (settled.yields challenges).keeps scene.2 ready.holds
  have silent := settled.silent challenges scene.2
  rw [consulted] at result_eq holds_late silent
  exact ⟨result_eq.symm, { ready with holds := holds_late }, silent⟩

theorem ends_sending_of_accepts (ready : Ready config preemptive holds scene) {request : Request}
    (origin : Origin) {attached : Option String}
    (accepted : server.accepts request.url request.authorization = true) :
    Ends config preemptive holds (true, 0)
      (proceed schemes server.wire 3 { request, origin, stage := .sending attached } scene) := by
  have judged := server.isUnauthorized_respond .first request
  rw [accepted] at judged
  have resumed := resume_spec schemes scene
    { request := request.spend, origin, stage := .sending attached }
    (.response (server.respond .first request))
  generalize goes : resume schemes { request := request.spend, origin, stage := .sending attached }
    (.response (server.respond .first request)) scene = outcome at resumed
  cases resumed with
  | rest _ _ waiting => cases waiting
  | settled =>
      rw [← accepted, ← isGranted_respond server .first request request.spend origin]
      exact ends_of_finished goes ready rfl 2
  | broken _ _ _ _ _ _ _ refused | unanswered _ _ _ _ _ _ refused | repeated _ _ _ _ _ _ refused
  | answering _ _ _ _ _ _ _ refused =>
      rw [judged] at refused
      cases refused

/-- After a refusal it depends on the answer of the schemes whether the request is sent again. -/
theorem ends_sending_of_refuses (settled : Settled schemes config holds answer)
    (ready : Ready config preemptive holds scene) {request : Request} (origin : Origin)
    {attached : Option String}
    (refuses : server.accepts request.url request.authorization = false) :
    Ends config preemptive holds (server.retry answer attached request.url)
      (proceed schemes server.wire 3 { request, origin, stage := .sending attached } scene) := by
  have judged := server.isUnauthorized_respond .first request
  have challenged := server.challenges_respond .first request refuses
  have stands := isGranted_respond server .first request request.spend origin
  rw [refuses] at judged stands
  have resumed := resume_spec schemes scene
    { request := request.spend, origin, stage := .sending attached }
    (.response (server.respond .first request))
  generalize goes : resume schemes { request := request.spend, origin, stage := .sending attached }
    (.response (server.respond .first request)) scene = outcome at resumed
  rw [Server.retry, ← challenged]
  cases resumed with
  | rest _ _ waiting => cases waiting
  | settled _ _ _ _ plain =>
      rcases plain with welcome | unchallenged
      · rw [judged] at welcome
        cases welcome
      · rw [challenged] at unchallenged
        exact absurd unchallenged (server.challenges_ne request.url)
  | broken _ _ _ _ failure state events _ _ consulted =>
      obtain ⟨answered, ready_late, silent⟩ := settled.of_consulted ready consulted
      simp only [answered]
      have fails : isGranted
          { request := request.spend, origin, stage := .finished (.error failure) } = false := rfl
      rw [← fails]
      exact ends_of_finished goes ready_late (by simp [silent]) 2
  | unanswered _ _ _ _ state events _ _ consulted =>
      obtain ⟨answered, ready_late, silent⟩ := settled.of_consulted ready consulted
      simp only [answered]
      rw [← stands]
      exact ends_of_finished goes ready_late (by simp [silent]) 2
  | repeated _ _ handle _ state events _ _ consulted =>
      obtain ⟨answered, ready_late, silent⟩ := settled.of_consulted ready consulted
      simp only [answered, if_true]
      rw [← stands]
      exact ends_of_finished goes ready_late (by simp [silent]) 2
  | answering _ _ _ handle _ state events _ _ consulted different =>
      obtain ⟨answered, ready_late, silent⟩ := settled.of_consulted ready consulted
      simp only [answered, different, if_false]
      rw [proceed_succ goes]
      have ends : Ends config preemptive holds (server.accepts request.url _, 1)
          (proceed schemes server.wire 2 _ (scene.1, state)) :=
        ends_closing ready_late request.spend origin (settled.sendable _ handle answered)
      exact ends.after (by simp [silent])

theorem ends_reading (settled : Settled schemes config holds answer)
    (ready : Ready config preemptive holds scene) {request : Request} (origin : Origin)
    {attached : Option String} (carried : request.authorization = attached.toList) :
    Ends config preemptive holds (server.courseAt answer attached request.url)
      (proceed schemes server.wire 4 { request, origin, stage := .reading attached } scene) := by
  have goes : resume schemes { request, origin, stage := .reading attached } .ready scene =
      { result := .ok { request := request.buffer, origin, stage := .sending attached }
        state := scene, events := [.sent .first request.buffer] } := rfl
  have same : server.accepts request.buffer.url request.buffer.authorization =
      server.accepts request.url attached.toList := by
    rw [Request.authorization_buffer, carried, Request.url_buffer]
  rw [proceed_succ goes, Server.courseAt]
  cases accepted : server.accepts request.url attached.toList with
  | true =>
      rw [accepted] at same
      exact (ends_sending_of_accepts ready origin same).after rfl
  | false =>
      rw [accepted] at same
      exact (ends_sending_of_refuses settled ready origin same).after (Nat.add_comm _ _)

/-- The course of a whole exchange, from what is remembered for its origin. -/
theorem ends_perform (settled : Settled schemes config holds answer)
    (ready : Ready config preemptive holds scene) (request : Request) :
    Ends config preemptive holds
      (server.course answer ((attachment scene.1 request.url.origin).map (·.headerValue)) request)
      (perform schemes server.wire request scene) := by
  rw [perform_eq_proceed]
  have begun := begin_spec scene request
  generalize begins : Exchange.begin request scene = outcome at begun
  cases begun with
  | own own =>
      have goes : resume schemes
          { request := request.spend, origin := request.url.origin, stage := .passing }
          (.response (server.respond .first request)) scene =
            { result := .ok
                { request := request.spend, origin := request.url.origin
                  stage := .finished (.ok (server.respond .first request)) }
              state := scene
              events := [.answered .first (server.respond .first request)] } := rfl
      rw [Action.bind_of_ok (by rw [begins]), begins]
      simp only [Server.course, own, ne_eq, not_false_eq_true, if_true]
      have ends : Ends config preemptive holds
          (server.accepts request.url request.authorization, 0)
          (proceed schemes server.wire 4
            { request, origin := request.url.origin, stage := .passing } scene) := by
        rw [← isGranted_respond server .first request request.spend request.url.origin]
        exact ends_of_finished goes ready rfl 3
      exact ends.after rfl
  | unshowable fault bare faulty =>
      rw [Action.bind_of_ok (by rw [begins]), begins]
      simp only [Server.course, bare, faulty, ne_eq, not_true_eq_false, if_false,
        Option.isSome_some, if_true]
      exact (ends_finished ready request _ (.error (.unshowable fault)) 4).after rfl
  | bare bare shown unattached =>
      rw [Action.bind_of_ok (by rw [begins]), begins, unattached]
      simp only [Server.course, bare, shown, ne_eq, not_true_eq_false, if_false]
      exact (ends_reading settled ready request.url.origin bare).after (Nat.zero_add _)
  | unsendable handle fault bare shown attaches unsendable =>
      rw [ready.sendable _ handle (find?_of_attachment attaches)] at unsendable
      cases unsendable
  | attached handle bare shown attaches sendable =>
      rw [Action.bind_of_ok (by rw [begins]), begins, attaches]
      simp only [Server.course, bare, shown, ne_eq, not_true_eq_false, if_false]
      have carried : (request.withAuthorization handle.headerValue).authorization =
          (some handle.headerValue).toList := Request.authorization_withAuthorization ..
      exact (ends_reading settled ready request.url.origin carried).after (Nat.zero_add _)

end Exchange
end Countersign
