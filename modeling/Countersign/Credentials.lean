import Countersign.Config.Basic
import Countersign.Text.Base64

/-!
# Credentials

The username and the password of a realm, the header that carries them, and how they are looked up:
the username first, and the password only if there is a username.  Values that cannot be written as
UTF-8 make no credentials.
-/

namespace Countersign

/-- The username and the password of a realm. -/
structure Credentials where
  /-- The realm that the credentials are for. -/
  realm : String
  /-- Who asks. -/
  username : String
  /-- The secret shared with the server. -/
  password : String
  deriving DecidableEq, Repr

namespace Credentials

/-- A username and a password in the form that a header carries. -/
def encode (username password : String) : String :=
  String.ofList (Base64.encode (Utf8.encode (username ++ ":" ++ password)))

/-- The value of the header that carries credentials. -/
def headerValue (credentials : Credentials) : String :=
  "Basic " ++ encode credentials.username credentials.password

/-- The header line that carries credentials. -/
def credentialHeader (credentials : Credentials) : String :=
  authorizationHeader ++ ": " ++ credentials.headerValue

/-- Credentials as an answer to a challenge. -/
def handle (credentials : Credentials) : Handle :=
  { realm := credentials.realm
    credentialHeader := credentials.credentialHeader
    headerValue := credentials.headerValue }

/-- A description that does not show the password. -/
def description (credentials : Credentials) : String :=
  "BasicCredentials(realm=" ++ Text.quoted credentials.realm ++ ", username=" ++
    Text.quoted credentials.username ++ ", password='***')"

variable {World : Type}

/-- The credentials of a realm, if its username and its password can be written in the form that a
header carries. -/
def make (realm : String) (username password : RawText) : Except Failure Credentials :=
  match (username ++ RawText.ofText ":" ++ password).fault? with
  | some fault => .error (.unencodable fault)
  | none => .ok { realm, username := username.text, password := password.text }

/-- Asks a configuration for the username of a realm. -/
def askUsername (realm : String) (config : Config World) : Action World RawText := do
  match ← config.ask (Config.userKey realm) with
  | some username => pure username
  | none => Action.fail (.noUsername realm (Config.userKey realm))

/-- Asks a configuration for the password of a realm. -/
def askPassword (realm : String) (config : Config World) : Action World RawText := do
  match ← config.ask (Config.passwordKey realm) with
  | some password => pure password
  | none => Action.fail (.noPassword realm (Config.passwordKey realm))

/-- Looks the credentials of a realm up. -/
def fromConfig (realm : String) (config : Config World) : Action World Credentials := do
  let username ← askUsername realm config
  let password ← askPassword realm config
  Action.ofResult (make realm username password)

end Credentials
end Countersign
