import Countersign.Failure
import Countersign.Handle
import Countersign.Http.Message

/-!
# Notices and events

A notice is a line that the library logs, held by its cause; its level, channel and wording are
functions of the cause.  An event is anything that an observer of an action sees: a notice, a key
asked of a configuration, and the traffic with the outside.
-/

namespace Countersign

/-- How urgent a notice is. -/
inductive Level where
  /-- For tracing. -/
  | debug
  /-- Something is missing or was refused. -/
  | warning
  deriving DecidableEq, Repr

/-- The part of the library that a notice comes from. -/
inductive Channel where
  /-- Resolving Basic challenges. -/
  | basic
  /-- Reading configuration. -/
  | config
  /-- Choosing among schemes. -/
  | scheme
  /-- Sending requests. -/
  | transport
  deriving DecidableEq, Repr

/-- Why a line is logged. -/
inductive Notice where
  /-- A challenge has no readable realm. -/
  | ignored (failure : Failure)
  /-- There is nothing to look a realm up in. -/
  | unconfigured (realm : String)
  /-- A realm lacks the value of a key. -/
  | unavailable (realm : String) (key : Option String)
  /-- Credentials of a realm were found. -/
  | resolved (realm username : String)
  /-- The variables of a file have been taken over. -/
  | loaded
  /-- The variables of a file could not be taken over. -/
  | unloadable (reason : String)
  /-- A key was answered by a variable of the environment. -/
  | fromVariable (key name : String)
  /-- No scheme accepts a challenge. -/
  | unmatched (challenge : Option String)
  /-- The scheme that accepts a challenge has no credentials for it. -/
  | withheld (scheme : String) (challenge : Option String)
  /-- A scheme has credentials for a realm. -/
  | provided (scheme realm : String)
  /-- A request is sent with remembered credentials. -/
  | attaching (method : String) (url : Url)
  /-- A request is sent again with the credentials of a realm. -/
  | answering (realm method : String) (url : Url)
  /-- A host refused the credentials of a realm. -/
  | rejected (realm host : String)
  deriving DecidableEq, Repr

namespace Notice

/-- How urgent a notice is. -/
def level : Notice → Level
  | unconfigured _ | unavailable _ _ | unloadable _ | rejected _ _ => .warning
  | ignored _ | resolved _ _ | loaded | fromVariable _ _ | unmatched _ | withheld _ _ | provided _ _
  | attaching _ _ | answering _ _ _ => .debug

/-- The part of the library that a notice comes from. -/
def channel : Notice → Channel
  | ignored _ | unconfigured _ | unavailable _ _ | resolved _ _ => .basic
  | loaded | unloadable _ | fromVariable _ _ => .config
  | unmatched _ | withheld _ _ | provided _ _ => .scheme
  | attaching _ _ | answering _ _ _ | rejected _ _ => .transport

/-- The wording of a notice. -/
def text : Notice → String
  | ignored failure => "Ignoring challenge: " ++ failure.message
  | unconfigured realm =>
      "No configuration available to resolve Basic realm '" ++ realm ++ "'"
  | unavailable realm key =>
      "Basic authentication unavailable for realm '" ++ realm ++ "': missing '" ++
        key.getD "None" ++ "'"
  | resolved realm username =>
      "Resolved Basic credentials for realm '" ++ realm ++ "' (user=" ++ username ++ ", ***)"
  | loaded => "Loaded .env file for credential configuration"
  | unloadable reason => "Failed to load .env file: " ++ reason
  | fromVariable key name =>
      "Resolved '" ++ key ++ "' from environment variable '" ++ name ++ "'"
  | unmatched challenge =>
      "No authentication scheme matches challenge " ++ Text.quotedOrNone challenge
  | withheld scheme challenge =>
      "Scheme '" ++ scheme ++ "' could not provide credentials for " ++ Text.quotedOrNone challenge
  | provided scheme realm =>
      "Scheme '" ++ scheme ++ "' provided credentials for realm '" ++ realm ++ "'"
  | attaching method url => "Attaching remembered credentials to " ++ method ++ " " ++ url.text
  | answering realm method url =>
      "Answering challenge for realm '" ++ realm ++ "' on " ++ method ++ " " ++ url.text
  | rejected realm host =>
      "Credentials for realm '" ++ realm ++ "' were rejected by " ++ host

end Notice

/-- Which of the at most two times a request is sent. -/
inductive Attempt where
  /-- The request as the caller made it, with remembered credentials if there are any. -/
  | first
  /-- The request with the credentials that answer a challenge. -/
  | second
  deriving DecidableEq, Repr

/-- What an observer of an action sees. -/
inductive Event where
  /-- A line is logged. -/
  | noted (notice : Notice)
  /-- A configuration is asked for the value of a key. -/
  | asked (key : String)
  /-- The schemes are asked to answer challenges. -/
  | consulted (challenges : List String)
  /-- The schemes have answered a challenge. -/
  | granted (handle : Handle)
  /-- A request goes out. -/
  | sent (attempt : Attempt) (request : Request)
  /-- A response comes in. -/
  | answered (attempt : Attempt) (response : Response)
  /-- A response is closed. -/
  | closed (attempt : Attempt)
  /-- What carries the requests is opened. -/
  | entered
  /-- What carries the requests is left, with the failure that ended its use. -/
  | exited (failure : Option Failure)
  /-- What carries the requests is shut. -/
  | shut
  deriving DecidableEq, Repr

namespace Event

/-- The logged lines among events. -/
def notices (events : List Event) : List Notice :=
  events.filterMap fun
    | noted notice => some notice
    | _ => none

/-- The asked keys among events. -/
def askedKeys (events : List Event) : List String :=
  events.filterMap fun
    | asked key => some key
    | _ => none

/-- The requests sent among events. -/
def requestsSent (events : List Event) : List Request :=
  events.filterMap fun
    | sent _ request => some request
    | _ => none

/-- For each response that came in, whether it was closed. -/
def closures (events : List Event) : List Bool :=
  events.filterMap fun
    | answered attempt _ => some (events.contains (closed attempt))
    | _ => none

end Event
end Countersign
