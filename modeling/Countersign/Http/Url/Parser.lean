import Countersign.Http.Domain
import Countersign.Http.Ip
import Countersign.Http.Url.Basic
import Countersign.Http.Url.Written
import Countersign.Text.Decimal
import Countersign.Text.Lowercase
import Countersign.Text.Percent

/-!
# Reading addresses

A text is an address if it has no control characters, its host is one, its port is a number, and its
path is not taken for an authority or a scheme.  Each part is then brought into its normal form by
itself.
-/

namespace Countersign
namespace Url

/-- Why a text is no address. -/
inductive Fault where
  /-- It has too many characters. -/
  | tooLong
  /-- It has an ASCII control character. -/
  | control (char : Char) (position : Nat)
  /-- Its host is like a version 4 address, but is none. -/
  | badVersion4 (host : List Char)
  /-- Its host is like a version 6 address, but is none. -/
  | badVersion6 (host : List Char)
  /-- Its host has characters above ASCII, but is no domain name. -/
  | badDomain (host : List Char)
  /-- Its port is no number. -/
  | badPort (port : List Char)
  /-- It has neither scheme nor host, and its path begins with two slashes. -/
  | doubleSlash
  /-- It has neither scheme nor host, and its path begins with a colon. -/
  | colon
  deriving DecidableEq, Repr

/-- The wording of a fault. -/
def Fault.message : Fault → String
  | tooLong => "URL too long"
  | control char position =>
      "Invalid non-printable ASCII character in URL, " ++
        String.ofList (Text.quoteChars [char]) ++ " at position " ++ toString position ++ "."
  | badVersion4 host => "Invalid IPv4 address: " ++ String.ofList (Text.quoteChars host)
  | badVersion6 host => "Invalid IPv6 address: " ++ String.ofList (Text.quoteChars host)
  | badDomain host => "Invalid IDNA hostname: " ++ String.ofList (Text.quoteChars host)
  | badPort port => "Invalid port: " ++ String.ofList (Text.quoteChars port)
  | doubleSlash => "Relative URLs cannot have a path starting with '//'"
  | colon => "Relative URLs cannot have a path starting with ':'"

/-- Most characters of an address. -/
def maximalLength : Nat := 65536

/-- The first ASCII control character of a text, with its position. -/
def control? (position : Nat) : List Char → Option Fault
  | [] => none
  | char :: rest =>
      if char.toNat < 0x20 ∨ char.toNat = 0x7f then some (.control char position)
      else control? (position + 1) rest

/-- Whether a character is printable ASCII apart from the given characters. -/
def isPlain (except : List Char) (char : Char) : Bool :=
  0x20 ≤ char.toNat && char.toNat < 0x7f && !except.contains char

/-- The characters that stand for themselves neither in a query nor in a path or user. -/
def queryEscapes : List Char := [' ', '\x22', '#', '<', '>']

/-- The characters that stand for themselves neither in a path nor in a user. -/
def pathEscapes : List Char := queryEscapes ++ ['?', '\x60', '\x7b', '\x7d']

/-- The characters that do not stand for themselves before a host. -/
def userEscapes : List Char :=
  pathEscapes ++ ['/', ';', '=', '@', '[', '\x5c', ']', '^', '|']

/-- The characters that do not stand for themselves in a fragment. -/
def fragmentEscapes : List Char := [' ', '\x22', '<', '>', '\x60']

/-- The characters that do not stand for themselves in a host. -/
def hostEscapes : List Char := [' ', '#', '/', ':', '<', '>', '?', '@', '[', ']', '^']

/-- The ways on through four runs of digits with one character after each but the last, by the
number of runs and characters begun. -/
def runStep (begun : List Nat) (char : Char) : List Nat :=
  (begun.flatMap fun count =>
    (if char.isDigit then [if count % 2 = 0 then count + 1 else count] else []) ++
      if count % 2 = 1 ∧ count < 7 then [count + 1] else []).eraseDups

/-- Whether a host is four runs of digits with one character between each two. -/
def isLikeVersion4 (host : List Char) : Bool :=
  (host.foldl runStep [0]).contains 7

/-- Whether a host stands in brackets. -/
def isBracketed (host : List Char) : Bool :=
  host.head? = some '[' && host.getLast? = some ']' && 2 ≤ host.length

/-- The host as it is sent. -/
def sentHost (host : List Char) : Except Fault (List Char) :=
  if isLikeVersion4 host then if Ip.isVersion4 host then .ok host else .error (.badVersion4 host)
  else if isBracketed host then
    let address := (host.drop 1).dropLast
    if Ip.isVersion6 address then .ok address else .error (.badVersion6 host)
  else if host.all (·.toNat < 0x80) then
    .ok (Text.escape (isPlain hostEscapes) (host.map Char.toLower))
  else
    match Domain.asciiForm (Text.lowercase (String.ofList host)).toList with
    | .ok sent => .ok sent
    | .error _ => .error (.badDomain host)

/-- The port that a scheme uses when an address names none. -/
def standardPort : String → Option Int
  | "ftp" => some 21
  | "http" => some 80
  | "https" => some 443
  | "ws" => some 80
  | "wss" => some 443
  | _ => none

/-- The port that an address names, unless it is that of the scheme as it is written. -/
def portOf (scheme port : List Char) : Except Fault (Option Int) :=
  if port.isEmpty then .ok none
  else
    match Text.integer? port with
    | none => .error (.badPort port)
    | some number =>
        .ok (if standardPort (String.ofList scheme) = some number then none else some number)

/-- Adds a segment to a path, which is held last segment first, unless it stands for this place or
for the one above it. -/
def addSegment (path : List (List Char)) (segment : List Char) : List (List Char) :=
  if segment = ['.'] then path
  else if segment = ['.', '.'] then if path = [[]] then path else path.drop 1
  else segment :: path

/-- A path without segments for this place and for the one above. -/
def plainPath (path : List Char) : List Char :=
  let segments := Text.split (· = '/') path
  if segments.contains ['.'] ∨ segments.contains ['.', '.'] then
    Text.join '/' (segments.foldl addSegment []).reverse
  else path

/-- Why a path may not stand alone, if it may not. -/
def pathFault? : List Char → Option Fault
  | '/' :: '/' :: _ => some .doubleSlash
  | ':' :: _ => some .colon
  | _ => none

/-- The host as it is shown, or why it cannot be shown. -/
def shownHost (sent : List Char) : Except Label.Fault (List Char) :=
  if Label.codeStart.isPrefixOf sent then Domain.unicodeForm sent else .ok sent

/-- The address with a path, given as it is written. -/
def withPath (url : Url) (path : List Char) : Url :=
  let path := if url.isAbsolute then plainPath path else path
  { url with path := String.ofList (Text.escape (isPlain pathEscapes) path) }

/-- The normal form of an address but for its path, given its host as it is sent and its port. -/
def normalize (written : Written) (sent : List Char) (port : Option Int) : Url :=
  let shown := shownHost sent
  { origin :=
      { scheme := String.ofList (written.scheme.map Char.toLower)
        host := String.ofList (shown.toOption.getD sent)
        port }
    host := String.ofList sent
    user := String.ofList (Text.escape (isPlain userEscapes) written.user)
    path := ""
    query := written.query.map (String.ofList ∘ Text.escape (isPlain queryEscapes))
    fragment := written.fragment.map (String.ofList ∘ Text.escape (isPlain fragmentEscapes))
    fault := match shown with
      | .ok _ => none
      | .error fault => some fault }

/-- The normal form of an address. -/
def parse (address : String) : Except Fault Url := do
  if maximalLength < address.length then throw .tooLong
  if let some fault := control? 0 address.toList then throw fault
  let written := divide address.toList
  let sent ← sentHost written.host
  let port ← portOf written.scheme written.port
  let url := normalize written sent port
  if let some fault := pathFault? written.path then
    if !url.isAbsolute then throw fault
  pure (url.withPath written.path)

end Url
end Countersign
