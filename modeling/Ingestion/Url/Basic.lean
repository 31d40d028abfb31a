import Ingestion.Url.Host

/-!
# URLs

A URL has a scheme and, as far as they are given, a user with a password, a host with a number, a
path and a query. `Url.ofText?` splits a text into these parts, which are still percent-encoded,
or refuses it.

What follows the scheme depends on it. Under a few schemes a URL has to have a host, which is a
domain, and a backslash counts as a slash. Files have a host but neither user nor number. Under
all other schemes two slashes announce a host, and without them there is none.
-/

namespace Ingestion

/-- The parts of a URL. -/
structure Url where
  scheme : String
  username : List Char := []
  password : List Char := []
  /-- The host, which is empty if there is none. -/
  host : List Char := []
  /-- The pieces of the path, between the slashes. -/
  path : List (List Char) := []
  query : List Char := []
deriving DecidableEq, Repr, Inhabited

namespace Url

/-- The text without blanks and control characters at its ends, and without line breaks and tabs
anywhere. -/
def cleaned (cs : List Char) : List Char :=
  let isOuter (c : Char) : Bool := c.toNat ≤ 32
  let cs := ((cs.dropWhile isOuter).reverse.dropWhile isOuter).reverse
  cs.filter fun c => c != '\t' && c != '\n' && c != '\r'

/-! ## Schemes -/

/-- How the text after a scheme is read. -/
inductive SchemeKind where
  /-- There has to be a host, which is a domain. -/
  | web
  | file
  | plain
deriving DecidableEq, Repr, Inhabited

/-- The kind of a scheme. -/
def SchemeKind.of (scheme : String) : SchemeKind :=
  if ["http", "https", "ws", "wss", "ftp"].contains scheme then .web
  else if scheme == "file" then .file
  else .plain

/-- Whether a character is a slash under a scheme. -/
def SchemeKind.isSlash (kind : SchemeKind) (c : Char) : Bool :=
  c == '/' || (c == '\\' && kind != .plain)

/-- Whether a character ends the part of a URL that names its host. -/
def SchemeKind.endsHost (kind : SchemeKind) (c : Char) : Bool :=
  kind.isSlash c || c == '?' || c == '#'

/-- The scheme of a text in small letters, and what follows its colon. -/
def scheme? (cs : List Char) : Option (String × List Char) :=
  let scheme := cs.takeWhile (· != ':')
  let isSchemeChar (c : Char) : Bool := c.isAlphanum || c == '+' || c == '-' || c == '.'
  match cs.drop scheme.length with
  | ':' :: rest =>
    if scheme.head?.any Char.isAlpha && scheme.all isSchemeChar then
      some (String.ofList (Text.lower scheme), rest)
    else none
  | _ => none

/-! ## Hosts and numbers -/

/-- The part of a text up to the first colon that is not in square brackets. -/
def beforeColon : Bool → List Char → List Char
  | _, [] => []
  | inside, c :: cs =>
    if c = ':' && !inside then []
    else c :: beforeColon (if c = '[' then true else if c = ']' then false else inside) cs

/-- The name and the password of a user. -/
def userOf (cs : List Char) : List Char × List Char :=
  (cs.takeWhile (· != ':'), (cs.dropWhile (· != ':')).drop 1)

/-- What follows a host: nothing, or a colon and a number of sixteen bits at most, which may be
left out. A backslash after the number begins the path and is returned. -/
def afterHost? : List Char → Option (List Char)
  | ':' :: cs =>
    let rest := cs.dropWhile Char.isDigit
    if Text.ofDigits (cs.takeWhile Char.isDigit) < UInt16.size
        && (rest.isEmpty || rest.head? == some '\\') then some rest
    else none
  | _ => some []

/-! ## Paths -/

/-- Whether a piece of a path is one point, which may be encoded. -/
def isPoint (cs : List Char) : Bool :=
  cs == ['.'] || Text.lower cs == ['%', '2', 'e']

/-- Whether a piece of a path is two points. -/
def isTwoPoints (cs : List Char) : Bool :=
  let cs := Text.lower cs
  (isPoint (cs.take 1) && isPoint (cs.drop 1)) || (isPoint (cs.take 3) && isPoint (cs.drop 3))

/-- The pieces of a path without those that are one point, and without each piece before one that
is two points. `kept` holds the pieces already read, the last one first. -/
def resolved : List (List Char) → List (List Char) → List (List Char)
  | kept, [] => kept.reverse
  | kept, piece :: rest =>
    if isPoint piece then resolved kept rest
    else if isTwoPoints piece then resolved (kept.drop 1) rest
    else resolved (piece :: kept) rest

/-- The URL with the path and the query that the text after its host stands for. -/
def withPath (u : Url) (kind : SchemeKind) (cs : List Char) : Url :=
  let cs := cs.takeWhile (· != '#')
  let path := (cs.takeWhile (· != '?')).map fun c => if kind.isSlash c then '/' else c
  let path := if path.head? == some '/' then path.drop 1 else path
  { u with
    path := resolved [] (Text.splitAt '/' path)
    query := (cs.dropWhile (· != '?')).drop 1 }

/-! ## The parts of a URL -/

/-- Reads what follows the slashes before a host. -/
def withHost? (scheme : String) (kind : SchemeKind) (cs : List Char) : Option Url := do
  let authority := cs.takeWhile (!kind.endsHost ·)
  let after := cs.dropWhile (!kind.endsHost ·)
  let place := (authority.reverse.takeWhile (· != '@')).reverse
  let user := authority.take (authority.length - place.length - 1)
  guard !(authority.head? == some '@' && user.isEmpty && place.isEmpty && !after.isEmpty)
  let (username, password) := userOf user
  let host := beforeColon false place
  let number := place.drop host.length
  guard (if kind = .plain then isOpaqueHost host else isDomainHost host)
  guard !(host.isEmpty && (!number.isEmpty || !username.isEmpty || !password.isEmpty))
  let rest ← afterHost? number
  return { scheme, username, password, host : Url }.withPath kind (rest ++ after)

/-- Whether a text is the letter of a drive, which is not taken for a host. -/
def isDrive (cs : List Char) : Bool :=
  match cs with
  | [c, mark] => c.isAlpha && (mark == ':' || mark == '|')
  | _ => false

/-- Reads what follows the scheme of a file. -/
def file? (scheme : String) (cs : List Char) : Option Url :=
  let kind := SchemeKind.file
  let u : Url := { scheme }
  if (cs.take 2).length = 2 && (cs.take 2).all kind.isSlash then
    let host := (cs.drop 2).takeWhile (!kind.endsHost ·)
    if host.isEmpty || isDrive host then some (u.withPath kind (cs.drop 2))
    else if isDomainHost host then
      some ({ u with host }.withPath kind ((cs.drop 2).drop host.length))
    else none
  else some (u.withPath kind cs)

/-- Reads a URL. -/
def ofText? (s : String) : Option Url := do
  let (scheme, rest) ← scheme? (cleaned s.toList)
  let kind := SchemeKind.of scheme
  match kind, rest with
  | .web, rest => withHost? scheme kind (rest.dropWhile kind.isSlash)
  | .file, rest => file? scheme rest
  | .plain, '/' :: '/' :: rest => withHost? scheme kind rest
  | .plain, '/' :: rest => some ({ scheme : Url }.withPath kind ('/' :: rest))
  | .plain, rest =>
    let cs := rest.takeWhile (· != '#')
    some { scheme, path := [cs.takeWhile (· != '?')], query := (cs.dropWhile (· != '?')).drop 1 }

end Url

end Ingestion
