import Ingestion.Http.MediaType

/-!
# Targets

The target of a request is a path and a query string. It may also be written as a whole address,
a scheme and a host before the path; these do not matter to the service. `Target.ofText?` refuses
a text with characters that have to be encoded.
-/

namespace Ingestion.Http

/-- The target of a request: the pieces of its path and its query string. -/
structure Target where
  path : List (List Char)
  query : List Char
deriving DecidableEq, Repr, Inhabited

namespace Target

/-- Whether a character may stand in a path. -/
def isPathChar (c : Char) : Bool :=
  0x21 ≤ c.toNat && c.toNat != 0x60 && c != '<' && c != '>'

/-- Whether a character may stand in a query string. -/
def isQueryChar (c : Char) : Bool :=
  0x21 ≤ c.toNat && c != '"' && c != '<' && c != '>'

/-- Reads a path with what follows it. What follows a `#` does not count. -/
def ofPath? (cs : List Char) : Option Target :=
  let path := cs.takeWhile fun c => c != '?' && c != '#'
  let query := ((cs.takeWhile (· != '#')).dropWhile (· != '?')).drop 1
  if path.all isPathChar && query.all isQueryChar then
    some { path := (Text.splitAt '/' path).drop 1, query }
  else none

/-- Whether a character may stand in a scheme. -/
def isSchemeChar (c : Char) : Bool :=
  c.isAlphanum || c == '+' || c == '-' || c == '.'

/-- Whether a character may stand in the name of a host. -/
def isHostChar (c : Char) : Bool :=
  c.isAlphanum || "!$&'()*+,-.;=_~".toList.contains c

/-- Whether a text is a host with a number after it, if there is one. -/
def isHost (cs : List Char) : Bool :=
  let colons (cs : List Char) : Bool :=
    cs.all (fun c => isHostChar c || c == ':') && (cs.filter (· == ':')).length ≤ 1
  match cs with
  | '[' :: rest =>
    (rest.takeWhile (· != ']')).all (fun c => isHostChar c || c == ':' || c == '%')
      && match rest.dropWhile (· != ']') with
        | ']' :: rest => colons rest
        | _ => false
  | cs => colons cs

/-- Whether a text is a host, with a user before it or without. -/
def isAuthority (cs : List Char) : Bool :=
  let host := (cs.reverse.takeWhile (· != '@')).reverse
  let user := cs.take (cs.length - host.length)
  isHost host && (user.isEmpty || !host.isEmpty)
    && user.all fun c => isHostChar c || c == ':' || c == '@' || c == '%'

/-- Reads a whole address, or a host alone, which has no path. -/
def ofAddress? (cs : List Char) : Option Target :=
  match cs.dropWhile isSchemeChar with
  | ':' :: '/' :: '/' :: rest =>
    let host := rest.takeWhile fun c => c != '/' && c != '?' && c != '#'
    if !host.isEmpty && isAuthority host then ofPath? (rest.drop host.length) else none
  | _ => if isAuthority cs then some { path := [], query := [] } else none

/-- Reads a target. -/
def ofText? (s : String) : Option Target :=
  match s.toList with
  | [] => none
  | '/' :: cs => ofPath? ('/' :: cs)
  | cs => ofAddress? cs

end Target

end Ingestion.Http
