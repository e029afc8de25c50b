import Countersign.Config.Variable
import Countersign.Http.Url.Parser
import Countersign.Text.Ascii
import Countersign.Text.Utf8

/-!
# Failures

Everything that can stop an action, with the wording that a caller is shown.
-/

namespace Countersign

/-- Why an action stopped. -/
inductive Failure where
  /-- Credentials are at fault in a way that no other case describes. -/
  | credential (message : String)
  /-- A realm has no username or no password. -/
  | notFound (message : String) (realm key : Option String)
  /-- A challenge is absent or not of the expected form. -/
  | malformed (message : String) (challenge : Option String)
  /-- A source of configuration or a scheme broke. -/
  | broken (message : String)
  /-- A request could not be sent. -/
  | unreachable (message : String)
  /-- A file is not UTF-8 text. -/
  | undecodable (fault : Utf8.Fault)
  /-- A variable cannot be set. -/
  | unsettable (fault : Variable.Fault)
  /-- A text is no address. -/
  | unaddressable (fault : Url.Fault)
  /-- The host of an address cannot be shown. -/
  | unshowable (fault : Label.Fault)
  /-- A header is not ASCII text. -/
  | unsendable (fault : Ascii.Fault)
  /-- A value cannot be written as UTF-8. -/
  | unencodable (fault : RawText.Fault)
  /-- No object of the needed kind has a name. -/
  | unknown (name : String)
  /-- A chain of sources contains itself. -/
  | endless
  deriving DecidableEq, Repr

namespace Failure

/-- The wording of a failure. -/
def message : Failure → String
  | credential message => message
  | notFound message _ _ => message
  | malformed message _ => message
  | broken message => message
  | unreachable message => message
  | undecodable fault => fault.message
  | unsettable fault => fault.message
  | unaddressable fault => fault.message
  | unshowable fault => fault.message
  | unsendable fault => fault.message
  | unencodable fault => fault.message
  | unknown name => "nothing of the needed kind is called " ++ Text.quoted name
  | endless => "maximum recursion depth exceeded"

/-- Whether a failure is about credentials or challenges. -/
def isAboutCredentials : Failure → Bool
  | credential _ | notFound _ _ _ | malformed _ _ => true
  | broken _ | unreachable _ | undecodable _ | unsettable _ | unaddressable _ | unshowable _
  | unsendable _ | unencodable _ | unknown _ | endless => false

/-- The failure to read a realm from no challenge or from an empty one. -/
def emptyChallenge (challenge : Option String) : Failure :=
  malformed "Challenge is empty" challenge

/-- The failure to read a realm from a challenge of another form. -/
def notBasic (challenge : String) : Failure :=
  malformed ("Not a Basic challenge: " ++ Text.quoted challenge) (some challenge)

/-- The failure to find the username of a realm under a key. -/
def noUsername (realm key : String) : Failure :=
  notFound ("Username for realm '" ++ realm ++ "' is not configured") (some realm) (some key)

/-- The failure to find the password of a realm under a key. -/
def noPassword (realm key : String) : Failure :=
  notFound ("Password for realm '" ++ realm ++ "' is not configured") (some realm) (some key)

end Failure
end Countersign
