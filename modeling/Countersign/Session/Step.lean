import Countersign.Session.Configure
import Countersign.Session.Resolve
import Countersign.Session.Send

/-!
# Steps of a session

A session proceeds step by step; a step that fails keeps what it had changed, and the session goes
on.
-/

namespace Countersign

/-- A step of a session. -/
inductive Step where
  /-- Makes a part and gives it a name. -/
  | setup (name : String) (setup : Setup)
  /-- Reads or changes configuration. -/
  | configure (step : ConfigStep)
  /-- Answers challenges. -/
  | resolve (step : ResolveStep)
  /-- Uses a transport. -/
  | send (step : SendStep)

namespace Step

/-- Performs a step. -/
def perform : Step → Action Session Answer
  | setup name contents => contents.perform name
  | configure step => step.perform
  | resolve step => step.perform
  | send step => step.perform

end Step

namespace Session

/-- What each of several steps ends with, one after the other. -/
def run : List Step → Session → List (Outcome Session Answer)
  | [], _ => []
  | step :: steps, session =>
      let outcome := step.perform session
      outcome :: run steps outcome.state

end Session
end Countersign
