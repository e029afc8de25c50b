/-!
# Parts of addresses

A scheme ends in a colon, an authority follows two slashes, a query a question mark and a fragment a
number sign; the rest is the path.  An authority is a host, after a user that ends in a commercial
at and before a port that follows a colon.  Every part but the path may be missing.
-/

namespace Countersign
namespace Url

/-- The parts of an address as they are written. -/
structure Written where
  /-- Scheme. -/
  scheme : List Char
  /-- What stands before the host. -/
  user : List Char
  /-- Host, with the brackets of an IPv6 address. -/
  host : List Char
  /-- Port. -/
  port : List Char
  /-- Path. -/
  path : List Char
  /-- What follows a question mark, if there is one. -/
  query : Option (List Char)
  /-- What follows a number sign, if there is one. -/
  fragment : Option (List Char)

/-- Whether a character may stand in a scheme. -/
def isSchemeChar (char : Char) : Bool :=
  char.isAlphanum || char = '+' || char = '.' || char = '-'

/-- The scheme at the start of an address and what follows its colon. -/
def splitScheme (address : List Char) : List Char × List Char :=
  let scheme := address.takeWhile isSchemeChar
  match address.drop scheme.length with
  | ':' :: rest => if scheme.head?.all Char.isAlpha then (scheme, rest) else ([], address)
  | _ => ([], address)

/-- The authority after two slashes, if they stand there, and what follows it. -/
def splitAuthority : List Char → List Char × List Char
  | '/' :: '/' :: rest => rest.span fun char => char ≠ '/' && char ≠ '?' && char ≠ '#'
  | rest => ([], rest)

/-- What stands before the last commercial at of an authority, and what stands after it. -/
def splitUser (authority : List Char) : List Char × List Char :=
  let place := (authority.reverse.takeWhile (· ≠ '@')).reverse
  (authority.take (authority.length - place.length - 1), place)

/-- The host of an authority without user, and what follows it.  Brackets reach to the last one that
closes. -/
def splitHost (place : List Char) : List Char × List Char :=
  let bracketed := (place.reverse.dropWhile (· ≠ ']')).reverse
  let host := if place.head? = some '[' ∧ bracketed ≠ [] then bracketed
    else place.takeWhile fun char => char ≠ ':' && char ≠ '@'
  (host, place.drop host.length)

/-- What follows a mark at the start of a text, up to where it ends, and the rest. -/
def splitMarked (mark : Char) (goesOn : Char → Bool) (text : List Char) :
    Option (List Char) × List Char :=
  match text with
  | [] => (none, [])
  | char :: rest =>
      if char = mark then (some (rest.takeWhile goesOn), rest.dropWhile goesOn)
      else (none, text)

/-- The parts of an address. -/
def divide (address : List Char) : Written :=
  let (scheme, afterScheme) := splitScheme address
  let (authority, afterAuthority) := splitAuthority afterScheme
  let (user, place) := splitUser authority
  let (host, afterHost) := splitHost place
  let (path, afterPath) := afterAuthority.span fun char => char ≠ '?' && char ≠ '#'
  let (query, afterQuery) := splitMarked '?' (· ≠ '#') afterPath
  let (fragment, _) := splitMarked '#' (fun _ => true) afterQuery
  { scheme, user, host, path, query, fragment
    port := if afterHost.head? = some ':' then afterHost.drop 1 else afterHost }

end Url
end Countersign
