import Countersign.Session.Basic

/-!
# Sending requests in a session

Steps on transports.  What carries the requests of a transport answers from a script, and lets what
reaches it be observed.
-/

namespace Countersign

/-- A step that uses a transport. -/
inductive SendStep where
  /-- Sets whether a transport sends remembered credentials without being asked for them. -/
  | setPreemptive (transport : String) (value : Bool)
  /-- Gives a transport a request, if it can be made, with the answers that come back. -/
  | request (transport : String) (request : Except Failure Request)
      (script : List (Except Failure Response))
  /-- Opens what carries the requests of a transport. -/
  | enter (transport : String)
  /-- Leaves what carries the requests of a transport, with the failure that ended its use. -/
  | exit (transport : String) (failure : Option Failure)
  /-- Shuts what carries the requests of a transport. -/
  | shut (transport : String)

namespace SendStep

/-- The header values that a transport remembers, by origin. -/
def remembered (transport : Transport (Config Surroundings)) : List (Origin × String) :=
  (transport.remembered.entries.map fun entry => (entry.1, entry.2.headerValue)).mergeSort
    fun left right => left.1.precedes right.1

/-- Performs a step. -/
def perform : SendStep → Action Session Answer
  | setPreemptive name preemptive => do
      let number ← Session.transport name
      Session.onClient (Client.changeTransport number ({ · with preemptive }))
      pure .nothing
  | request name made script => do
      let number ← Session.transport name
      let message ← Action.ofResult made
      let exchange ← Session.onClient (Client.request number (Wire.scripted script) message)
      let session ← Action.current
      pure (.exchanged exchange (remembered (session.client.carriers number).transport))
  | enter name => do
      let _ ← Session.transport name
      Action.emit .entered
      pure (.returned (some true))
  | exit name failure => do
      let number ← Session.transport name
      Action.emit (.exited failure)
      let session ← Action.current
      pure (.returned (some (session.suppresses number)))
  | shut name => do
      let _ ← Session.transport name
      Action.emit .shut
      pure (.returned none)

end SendStep
end Countersign
