import Countersign.Failure
import Countersign.Text.Uppercase

/-!
# Requests and responses

Header names are compared without regard to the case of ASCII letters, and headers are ASCII texts:
a header that is not cannot be sent.  A body that is a stream can be read once; buffering a request
replaces its stream by the bytes that the stream gives.
-/

namespace Countersign

/-- Header lines in order, each a name and a value. -/
abbrev Headers := List (String × String)

namespace Headers

/-- Whether two header names are the same up to the case of ASCII letters. -/
def sameName (left right : String) : Bool :=
  left.toLower == right.toLower

/-- All values of a header, in order. -/
def values (headers : Headers) (name : String) : List String :=
  (headers.filter fun header => sameName header.1 name).map (·.2)

/-- The headers in which one value replaces all values of a name, where the first of them stood. -/
def replace (name value : String) : Headers → Headers
  | [] => [(name, value)]
  | header :: headers =>
      if sameName header.1 name then
        (name, value) :: headers.filter fun header => !sameName header.1 name
      else header :: replace name value headers

/-- Why headers cannot be sent, if they cannot. -/
def fault? (headers : Headers) : Option Ascii.Fault :=
  headers.findSome? fun header => (Ascii.fault? header.1).or (Ascii.fault? header.2)

/-- Headers if they can be sent. -/
def checked (headers : Headers) : Except Failure Headers :=
  match headers.fault? with
  | some fault => .error (.unsendable fault)
  | none => .ok headers

end Headers

/-- Name of the header that carries credentials. -/
def authorizationHeader : String := "Authorization"

/-- Name of the header that carries a challenge. -/
def challengeHeader : String := "WWW-Authenticate"

/-- The content of a request. -/
inductive Body where
  /-- Bytes that can be sent any number of times. -/
  | whole (bytes : List UInt8)
  /-- Pieces that are gone once they have been read. -/
  | stream (pieces : List (List UInt8))
  deriving DecidableEq, Repr

namespace Body

/-- What a reader of the body gets. -/
def bytes : Body → List UInt8
  | whole bytes => bytes
  | stream pieces => pieces.flatten

/-- The body after it has been read. -/
def spent : Body → Body
  | whole bytes => whole bytes
  | stream _ => stream []

end Body

/-- A request. -/
structure Request where
  /-- Method in upper case. -/
  method : String
  /-- Address that the request goes to. -/
  url : Url
  /-- Header lines. -/
  headers : Headers
  /-- Content. -/
  body : Body
  deriving DecidableEq, Repr

namespace Request

/-- The request that a caller describes by a method in any case and an address in any form. -/
def make (method address : String) (headers : Headers) (body : Body) : Except Failure Request := do
  let url ← (Url.parse address).mapError .unaddressable
  let headers ← headers.checked
  pure { method := Text.uppercase method, url, headers, body }

/-- The values of the header that carries credentials. -/
def authorization (request : Request) : List String :=
  request.headers.values authorizationHeader

/-- The request with one value of the header that carries credentials. -/
def withAuthorization (request : Request) (value : String) : Request :=
  { request with headers := request.headers.replace authorizationHeader value }

/-- The request with one value of the header that carries credentials, if that can be sent. -/
def authorize (request : Request) (value : String) : Except Failure Request :=
  match Ascii.fault? value with
  | some fault => .error (.unsendable fault)
  | none => .ok (request.withAuthorization value)

/-- The request with its content held as bytes. -/
def buffer (request : Request) : Request :=
  { request with body := .whole request.body.bytes }

/-- The request after its content has been read. -/
def spend (request : Request) : Request :=
  { request with body := request.body.spent }

end Request

/-- An answer to a request. -/
structure Response where
  /-- Status code. -/
  status : Nat
  /-- Header lines. -/
  headers : Headers
  deriving DecidableEq, Repr

namespace Response

/-- The answer with a status code and headers, if it can be sent. -/
def make (status : Nat) (headers : Headers) : Except Failure Response := do
  let headers ← headers.checked
  pure { status, headers }

/-- Whether the answer asks for credentials. -/
def isUnauthorized (response : Response) : Bool :=
  response.status == 401

/-- The challenges of an answer, in order. -/
def challenges (response : Response) : List String :=
  response.headers.values challengeHeader

end Response
end Countersign
