import Countersign.Numbered
import Countersign.Proofs.Transport.Exchange

/-!
# Many exchanges on one transport

Exchanges on one transport take turns in any order, and each turn takes one of them from one wait to
the next.  Between turns the transport may be given another configuration, may be told whether to
use what it remembers, and what the schemes act on may change in any way.  The history holds every
turn with what it started from.
-/

namespace Countersign

namespace Traffic

/-- A request with the exchange that sends it. -/
structure Call where
  original : Request
  exchange : Exchange

/-- The end of a wait of an exchange, with what the transport and the schemes then held. -/
structure Turn (Conf State : Type) where
  exchange : Exchange
  reply : Exchange.Reply
  scene : Exchange.Scene Conf State

/-- Something that happens to a transport in use. -/
inductive Move (Conf State : Type) where
  | start (number : Nat) (request : Request)
  | resume (number : Nat) (reply : Exchange.Reply)
  | reconfigure (config : Option Conf)
  | setPreemptive (preemptive : Bool)
  | disturb (change : State → State)

end Traffic

/-- A transport in use. -/
structure Traffic (Conf State : Type) where
  /-- What the transport and the schemes hold. -/
  scene : Exchange.Scene Conf State
  /-- The calls by number. -/
  calls : Nat → Option Traffic.Call
  /-- The turns so far, in order. -/
  history : List (Traffic.Turn Conf State)

namespace Traffic

variable {Conf State : Type}

/-- A transport before its first request. -/
def start (scene : Exchange.Scene Conf State) : Traffic Conf State :=
  { scene, calls := fun _ => none, history := [] }

/-- What becomes of a transport in use.  A number stands for one call for good, and only a call that
was started can go on. -/
def move (schemes : Exchange.Schemes Conf State) (traffic : Traffic Conf State) :
    Move Conf State → Traffic Conf State
  | .start number request =>
      match traffic.calls number with
      | some _ => traffic
      | none =>
          let outcome := Exchange.begin request traffic.scene
          { traffic with
            scene := outcome.state
            calls := assign traffic.calls number
              (outcome.result.toOption.map fun exchange => { original := request, exchange }) }
  | .resume number reply =>
      match traffic.calls number with
      | none => traffic
      | some call =>
          let outcome := call.exchange.resume schemes reply traffic.scene
          { scene := outcome.state
            calls := assign traffic.calls number
              (outcome.result.toOption.map fun exchange => { call with exchange })
            history := traffic.history ++
              [{ exchange := call.exchange, reply, scene := traffic.scene }] }
  | .reconfigure config =>
      { traffic with scene := ({ traffic.scene.1 with config }, traffic.scene.2) }
  | .setPreemptive preemptive =>
      { traffic with scene := ({ traffic.scene.1 with preemptive }, traffic.scene.2) }
  | .disturb change => { traffic with scene := (traffic.scene.1, change traffic.scene.2) }

/-- What becomes of a transport in use by moves, in order. -/
def run (schemes : Exchange.Schemes Conf State) (traffic : Traffic Conf State)
    (moves : List (Move Conf State)) : Traffic Conf State :=
  moves.foldl (move schemes) traffic

namespace Turn

/-- Whether the schemes answered the challenges of a refusal from an origin with a handle. -/
def Grants (schemes : Exchange.Schemes Conf State) (origin : Origin) (handle : Handle)
    (turn : Turn Conf State) : Prop :=
  ∃ attached response,
    turn.exchange.stage = .sending attached ∧ turn.reply = .response response ∧
      response.isUnauthorized ∧ turn.exchange.request.url.origin = origin ∧
        (schemes response.challenges turn.scene.1.config turn.scene.2).result = .ok (some handle)

/-- Whether an origin answered a request that was sent again with the credentials of a handle. -/
def Answers (origin : Origin) (handle : Handle) (response : Response) (turn : Turn Conf State) :
    Prop :=
  turn.exchange.stage = .resending handle ∧ turn.reply = .response response ∧
    turn.exchange.request.url.origin = origin

/-- What a turn teaches about an origin: the handle that helped there, or that one did not. -/
def lesson? (origin : Origin) (turn : Turn Conf State) : Option (Option Handle) :=
  match turn.exchange.stage, turn.reply with
  | .resending handle, .response response =>
      if turn.exchange.request.url.origin = origin then
        some (if response.isUnauthorized then none else some handle)
      else none
  | _, _ => none

end Turn
end Traffic
end Countersign
