import Ingestion.Text

/-!
# Media types

A media type is a type and a subtype with a slash between them, and parameters after semicolons.
A subtype may end in a suffix: the text after its last plus sign. Case does not matter. A body is
taken as JSON if its type is `application` and either its subtype without the suffix or the suffix
is `json`.

Only printable ASCII characters occur in a media type.
-/

namespace Ingestion.Http

/-- A media type without its parameters. -/
structure MediaType where
  type : List Char
  /-- The subtype up to its suffix. -/
  subtype : List Char
  suffix : Option (List Char)
deriving DecidableEq, Repr

namespace MediaType

/-- The characters of names and of values without quotation marks. -/
def isTokenChar (c : Char) : Bool :=
  c.isAlphanum || "!#$%&'*+-.^_|~".toList.contains c || c == Char.ofNat 0x60

/-- The characters of values between quotation marks. -/
def isPrintable (c : Char) : Bool :=
  0x20 ≤ c.toNat && c.toNat < 0x7F

/-- A name of at least one character, and what follows it. -/
def name? (cs : List Char) : Option (List Char × List Char) :=
  let name := cs.takeWhile isTokenChar
  if name.isEmpty then none else some (name, cs.dropWhile isTokenChar)

/-! ## Parameters -/

/-- What follows the closing quotation mark of a value. The value has at least one character, and
so a quotation mark at its start is part of it. -/
def afterQuoted? : List Char → Option (List Char)
  | [] => none
  | c :: rest =>
    match rest.dropWhile fun c => isPrintable c && c != '"' with
    | '"' :: rest => if isPrintable c then some rest else none
    | _ => none

/-- What follows the value of a parameter: the end, or the text after a semicolon. A value
between quotation marks may be followed by spaces. A value without them may be empty only at the
end. -/
def afterValue? (cs : List Char) : Option (Option (List Char)) :=
  match cs with
  | '"' :: rest =>
    match (afterQuoted? rest).map (List.dropWhile (· == ' ')) with
    | some [] => some none
    | some (';' :: rest) => some (some rest)
    | _ => none
  | cs =>
    match cs.dropWhile isTokenChar with
    | [] => some none
    | ';' :: rest => if (cs.takeWhile isTokenChar).isEmpty then none else some (some rest)
    | _ => none

/-- Whether the text after a semicolon is made of parameters. There are at most as many of them
as `fuel`. -/
def areParams : Nat → List Char → Bool
  | 0, _ => false
  | fuel + 1, cs =>
    match cs.dropWhile (· == ' ') with
    | [] => true
    | cs =>
      match name? cs with
      | some (_, '=' :: rest) =>
        match afterValue? rest with
        | some (some rest) => areParams fuel rest
        | some none => true
        | none => false
      | _ => false

/-- Whether the text after a subtype is made of parameters, or there is none. -/
def endsProperly : List Char → Bool
  | [] => true
  | ';' :: params => areParams (params.length + 1) params
  | _ => false

/-! ## Types -/

/-- The subtype and the suffix of a name. A plus sign at its start belongs to the subtype. -/
def splitSuffix (name : List Char) : List Char × Option (List Char) :=
  let last := name.reverse.takeWhile (· != '+')
  let rest := name.take (name.length - last.length - 1)
  if last.length < name.length && !rest.isEmpty then (rest, some last.reverse) else (name, none)

/-- Reads a media type in small letters. -/
def ofText? (s : String) : Option MediaType := do
  let (type, rest) ← name? s.toList
  let rest ← match rest with
    | '/' :: rest => some rest
    | _ => none
  let (name, rest) ← name? rest
  guard (endsProperly rest)
  let (subtype, suffix) := splitSuffix (Text.lower name)
  return { type := Text.lower type, subtype, suffix }

/-- Whether a body of this media type is taken as JSON. -/
def holdsJson (m : MediaType) : Bool :=
  m.type == "application".toList
    && (m.subtype == "json".toList || m.suffix == some "json".toList)

/-- Whether a text is a media type whose bodies are taken as JSON. -/
def isJson (s : String) : Bool :=
  (ofText? s).any holdsJson

end MediaType

end Ingestion.Http
