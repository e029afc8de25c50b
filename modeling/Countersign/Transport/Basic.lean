import Countersign.Scheme.Basic
import Countersign.Table

/-!
# Sending requests that answer challenges

A request that carries credentials of its own is sent as it is.  Any other request is sent with
the credentials remembered for its origin, if there are any and they are to be used.  If the
answer asks for credentials and the schemes have some that were not just sent, the answer is
closed and the request is sent once more with them, unless they cannot be sent.  They are remembered
for the origin if that helped, and what was remembered is dropped if it did not.  An exchange is one
such request in progress; it advances from one wait to the next, and between two waits nothing else
happens.  While a request is being sent, what carries it may change it.
-/

namespace Countersign

/-- What a transport holds between requests. -/
structure Transport (Conf : Type) where
  /-- The configuration that the schemes are given. -/
  config : Option Conf
  /-- Whether remembered credentials are sent without being asked for. -/
  preemptive : Bool
  /-- The credentials that last helped, by origin. -/
  remembered : Table Origin Handle

/-- What an exchange waits for. -/
inductive Exchange.Stage where
  /-- The answer to a request with credentials of its own. -/
  | passing
  /-- The content of the request, to be sent with the attached credentials. -/
  | reading (attached : Option String)
  /-- The answer to the request with the attached credentials. -/
  | sending (attached : Option String)
  /-- The end of the first answer, before the credentials are sent. -/
  | closing (handle : Handle)
  /-- The answer to the request with the credentials. -/
  | resending (handle : Handle)
  /-- Nothing any more. -/
  | finished (result : Except Failure Response)

/-- A request in progress. -/
structure Exchange where
  /-- The request as it is now. -/
  request : Request
  /-- Where the request was to go at first. -/
  origin : Origin
  /-- What the exchange waits for. -/
  stage : Exchange.Stage

/-- What a wait ends with. -/
inductive Exchange.Reply where
  /-- What was waited for is done. -/
  | ready
  /-- An answer came in. -/
  | response (response : Response)
  /-- The wait failed. -/
  | failed (failure : Failure)
  deriving DecidableEq, Repr

namespace Exchange

/-- Ends an exchange. -/
def finish (exchange : Exchange) (result : Except Failure Response) : Exchange :=
  { exchange with stage := .finished result }

variable {Conf State : Type}

/-- The schemes, given challenges and a configuration. -/
abbrev Schemes (Conf State : Type) : Type :=
  List String → Option Conf → Action State (Option Handle)

/-- What a transport and its schemes act on together. -/
abbrev Scene (Conf State : Type) : Type :=
  Transport Conf × State

/-- Sends the request of an exchange, which then waits. -/
def send (attempt : Attempt) (exchange : Exchange) : Action (Scene Conf State) Exchange := do
  Action.emit (.sent attempt exchange.request)
  pure exchange

/-- The credentials to send with a request without being asked for them. -/
def attachment (transport : Transport Conf) (origin : Origin) : Option Handle :=
  if transport.preemptive then transport.remembered.find? origin else none

/-- Starts an exchange. -/
def begin (request : Request) : Action (Scene Conf State) Exchange := do
  let origin := request.url.origin
  if request.authorization ≠ [] then send .first { request, origin, stage := .passing }
  else
    match request.url.fault with
    | some fault => pure { request, origin, stage := .finished (.error (.unshowable fault)) }
    | none => do
        let scene ← Action.current
        match attachment scene.1 origin with
        | none => pure { request, origin, stage := .reading none }
        | some handle =>
            match request.authorize handle.headerValue with
            | .error failure => pure { request, origin, stage := .finished (.error failure) }
            | .ok authorized => do
                Action.note (.attaching request.method request.url)
                pure { request := authorized, origin, stage := .reading (some handle.headerValue) }

/-- Asks the schemes of a transport to answer challenges. -/
def consult (schemes : Schemes Conf State) (challenges : List String) :
    Action (Scene Conf State) (Option Handle) := do
  Action.emit (.consulted challenges)
  let scene ← Action.current
  let answer ← (schemes challenges scene.1.config).within (·.2) fun scene state => (scene.1, state)
  match answer with
  | some handle => do
      Action.emit (.granted handle)
      pure (some handle)
  | none => pure none

/-- Goes on after the first answer. -/
def receive (schemes : Schemes Conf State) (exchange : Exchange) (attached : Option String)
    (response : Response) : Action (Scene Conf State) Exchange := do
  Action.emit (.answered .first response)
  if !response.isUnauthorized || response.challenges.isEmpty then
    pure (exchange.finish (.ok response))
  else
    match ← Action.attempt (consult schemes response.challenges) with
    | .error failure => pure (exchange.finish (.error failure))
    | .ok none => pure (exchange.finish (.ok response))
    | .ok (some handle) =>
        if attached = some handle.headerValue then pure (exchange.finish (.ok response))
        else do
          Action.note (.answering handle.realm exchange.request.method exchange.request.url)
          pure { exchange with stage := .closing handle }

/-- Remembers credentials for the origin of an exchange if they helped, and drops what was
remembered otherwise. -/
def learn (exchange : Exchange) (handle : Handle) (response : Response) :
    Action (Scene Conf State) Unit := do
  if response.isUnauthorized then do
    Action.note (.rejected handle.realm exchange.request.url.origin.host)
    Action.change fun scene =>
      ({ scene.1 with remembered := scene.1.remembered.erase exchange.origin }, scene.2)
  else
    Action.change fun scene =>
      ({ scene.1 with remembered := scene.1.remembered.insert exchange.origin handle }, scene.2)

/-- Goes on after a wait.  A reply that the exchange does not wait for leaves it as it is. -/
def resume (schemes : Schemes Conf State) (exchange : Exchange) (reply : Reply) :
    Action (Scene Conf State) Exchange :=
  match exchange.stage, reply with
  | .passing, .response response => do
      Action.emit (.answered .first response)
      pure (exchange.finish (.ok response))
  | .reading attached, .ready =>
      send .first { exchange with request := exchange.request.buffer, stage := .sending attached }
  | .sending attached, .response response => receive schemes exchange attached response
  | .closing handle, .ready => do
      Action.emit (.closed .first)
      match exchange.request.authorize handle.headerValue with
      | .error failure => pure (exchange.finish (.error failure))
      | .ok authorized =>
          send .second { exchange with request := authorized, stage := .resending handle }
  | .resending handle, .response response => do
      Action.emit (.answered .second response)
      learn exchange handle response
      pure (exchange.finish (.ok response))
  | .passing, .failed failure | .reading _, .failed failure | .sending _, .failed failure
  | .closing _, .failed failure | .resending _, .failed failure =>
      pure (exchange.finish (.error failure))
  | _, _ => pure exchange

end Exchange

/-- What the waits of one exchange end with, and what becomes of its request meanwhile. -/
structure Wire where
  /-- Why the content of a request cannot be read, if it cannot. -/
  unreadable : Option Failure
  /-- The answer to each sending of a request. -/
  answer : Attempt → Request → Except Failure Response
  /-- What becomes of the request at each sending of it, whether it is answered or not. -/
  left : Attempt → Request → Request
  /-- Why an answer cannot be closed, if it cannot. -/
  unclosable : Option Failure

namespace Wire

/-- The end of a wait that may fail. -/
def done : Option Failure → Exchange.Reply
  | none => .ready
  | some failure => .failed failure

/-- The end of a wait for an answer. -/
def received : Except Failure Response → Exchange.Reply
  | .ok response => .response response
  | .error failure => .failed failure

/-- What the current wait of an exchange ends with. -/
def reply (wire : Wire) (exchange : Exchange) : Exchange.Reply :=
  match exchange.stage with
  | .passing | .sending _ => received (wire.answer .first exchange.request)
  | .reading _ => done wire.unreadable
  | .closing _ => done wire.unclosable
  | .resending _ => received (wire.answer .second exchange.request)
  | .finished _ => .ready

/-- An exchange with its request as it is at the end of the current wait. -/
def touch (wire : Wire) (exchange : Exchange) : Exchange :=
  match exchange.stage with
  | .passing | .sending _ => { exchange with request := wire.left .first exchange.request }
  | .resending _ => { exchange with request := wire.left .second exchange.request }
  | .reading _ | .closing _ | .finished _ => exchange

/-- The wire that answers from a script, and with status 599 when the script has ended.  It reads
the content of each request. -/
def scripted (script : List (Except Failure Response)) : Wire :=
  { unreadable := none
    answer := fun attempt _ =>
      let place := match attempt with
        | .first => 0
        | .second => 1
      script.getD place (.ok { status := 599, headers := [] })
    left := fun _ request => request.spend
    unclosable := none }

end Wire

namespace Exchange

variable {Conf State : Type}

/-- Goes on after the current wait. -/
def advance (schemes : Schemes Conf State) (wire : Wire) (exchange : Exchange) :
    Action (Scene Conf State) Exchange :=
  (wire.touch exchange).resume schemes (wire.reply exchange)

/-- A whole exchange.  It waits at most four times: for the content of the request, for the first
answer, for that answer to be closed, and for the second answer. -/
def perform (schemes : Schemes Conf State) (wire : Wire) (request : Request) :
    Action (Scene Conf State) Exchange := do
  let exchange ← begin request
  let exchange ← exchange.advance schemes wire
  let exchange ← exchange.advance schemes wire
  let exchange ← exchange.advance schemes wire
  exchange.advance schemes wire

end Exchange
end Countersign
