import Countersign.Http.Label.Basic

/-!
# Request addresses

An address is held in its normal form: scheme and host in lower case, no port that is the scheme's
own, the host of an IPv6 address as it is written but without its brackets, any other host in its
ASCII form, no dot segments in the path, and escapes for the characters that may not stand for
themselves.  Requests share an origin when scheme, host and port agree, where the host is shown in
its Unicode form if its ASCII form begins like that of a label.
-/

namespace Countersign

/-- Where a request goes: what credentials are remembered for. -/
structure Origin where
  /-- Scheme in lower case. -/
  scheme : String
  /-- Host as it is shown, without brackets. -/
  host : String
  /-- Port, unless it is the scheme's own. -/
  port : Option Int
  deriving DecidableEq, Repr

/-- Whether an origin comes before another by scheme, then host, then port, no port being -1. -/
def Origin.precedes (left right : Origin) : Bool :=
  if left.scheme ≠ right.scheme then left.scheme < right.scheme
  else if left.host ≠ right.host then left.host < right.host
  else left.port.getD (-1) ≤ right.port.getD (-1)

/-- An address in normal form. -/
structure Url where
  /-- Scheme, host as it is shown, and port. -/
  origin : Origin
  /-- Host as it is sent. -/
  host : String
  /-- What stands before the host. -/
  user : String
  /-- Path. -/
  path : String
  /-- What follows a question mark, if there is one. -/
  query : Option String
  /-- What follows a number sign, if there is one. -/
  fragment : Option String
  /-- Why the host cannot be shown, if it cannot. -/
  fault : Option Label.Fault
  deriving DecidableEq, Repr

namespace Url

/-- Whether an address has a scheme, a user, a host or a port. -/
def isAbsolute (url : Url) : Bool :=
  url.origin.scheme ≠ "" || url.user ≠ "" || url.host ≠ "" || url.origin.port.isSome

/-- The user, the host with brackets around an IPv6 address, and the port. -/
def authority (url : Url) : String :=
  (if url.user = "" then "" else url.user ++ "@") ++
    (if url.host.toList.contains ':' then "[" ++ url.host ++ "]" else url.host) ++
    (url.origin.port.map fun port => ":" ++ toString port).getD ""

/-- The text of an address. -/
def text (url : Url) : String :=
  (if url.origin.scheme = "" then "" else url.origin.scheme ++ ":") ++
    (if url.authority = "" then "" else "//" ++ url.authority) ++ url.path ++
    (url.query.map ("?" ++ ·)).getD "" ++ (url.fragment.map ("#" ++ ·)).getD ""

end Url
end Countersign
