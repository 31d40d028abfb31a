import Ingestion.Json.Document
import Ingestion.Text

/-!
# Decoding JSON documents

A decoder takes a document to a datum of a given kind. It fails with the first fault that stands
in its way, in the order of the text: the text may break off there, or hold a datum of another
kind.

`Record` describes an object by its fields in declaration order. A record may also be written as
an array of its fields in that order. An object may not give a field twice; members that are no
fields are passed over.
-/

namespace Ingestion.Json

/-- Why a document does not hold the datum that is asked for. -/
inductive Fault where
  /-- The text is no JSON at the place where the datum is read. -/
  | malformed
  /-- The text holds a datum of another kind, or lacks one. -/
  | mismatched
deriving DecidableEq, Repr, Inhabited

/-- Reads a datum off a document. -/
abbrev Decoder (α : Type) : Type :=
  Document → Except Fault α

namespace Decoder

/-- The fault of a document that does not hold the kind of datum that is asked for. -/
def unexpected {α : Type} : Decoder α
  | .unreadable _ => .error .malformed
  | _ => .error .mismatched

/-- A boolean. -/
def bool : Decoder Bool
  | .bool b => .ok b
  | d => unexpected d

/-- A text. -/
def string : Decoder String
  | .string s => .ok s
  | d => unexpected d

/-- A text that stands for something. -/
def parsed {α : Type} (parse? : String → Option α) : Decoder α := fun d => do
  match parse? (← string d) with
  | some a => .ok a
  | none => .error .mismatched

/-- A whole number that `accept?` takes. -/
def whole {α : Type} (accept? : Int → Option α) : Decoder α
  | .number (.int n) =>
    match accept? n with
    | some a => .ok a
    | none => .error .mismatched
  | d => unexpected d

/-- A natural number. Whole numbers beyond 64 bits are never read as such. -/
def nat : Decoder Nat :=
  whole fun n => if 0 ≤ n then some n.toNat else none

/-- An unsigned 32-bit number. -/
def uint32 : Decoder UInt32 :=
  whole fun n => if 0 ≤ n ∧ n < UInt32.size then some (.ofNat n.toNat) else none

/-- An unsigned 64-bit number. -/
def uint64 : Decoder UInt64 :=
  whole fun n => if 0 ≤ n ∧ n < UInt64.size then some (.ofNat n.toNat) else none

/-- A signed 64-bit number. -/
def int64 : Decoder Int64 :=
  whole fun n =>
    if Int64.minValue.toInt ≤ n ∧ n ≤ Int64.maxValue.toInt then some (.ofInt n) else none

/-- A datum that may be missing: `null` stands for none. -/
def optional {α : Type} (d : Decoder α) : Decoder (Option α)
  | .null => .ok none
  | doc => some <$> d doc

/-- The items of an array. -/
def list {α : Type} (d : Decoder α) : Decoder (List α)
  | .array items closed => do
    let xs ← items.mapM d
    if closed then .ok xs else .error .malformed
  | doc => unexpected doc

/-- Any datum. -/
def value : Decoder Value := fun d =>
  match d.toValue? with
  | some v => .ok v
  | none => .error .malformed

/-- An object with any members. -/
def members : Decoder Members
  | .object ms closed =>
    match (Document.object ms closed).toValue?.bind Value.members? with
    | some members => .ok members
    | none => .error .malformed
  | d => unexpected d

/-- One of a few names. The name may also be the only member of an object, whose value is
`null`. -/
def variant {α : Type} (ofName? : String → Option α) : Decoder α
  | .string s =>
    match ofName? s with
    | some a => .ok a
    | none => .error .mismatched
  | .object ((some name, d) :: rest) closed =>
    match ofName? name, d with
    | none, _ => .error .mismatched
    | some a, .null => if rest.isEmpty && closed then .ok a else .error .malformed
    | some _, d => unexpected d
  | _ => .error .malformed

end Decoder

/-! ## Records -/

/-- A field of a record, as far as it does not depend on the kind of its datum. -/
structure Field where
  name : String
  /-- Whether an array of the fields may end before this one. -/
  omissible : Bool
  /-- Reads the datum and drops it. -/
  check : Decoder Unit

/-- A datum made of fields. -/
structure Record (α : Type) where
  /-- The fields in declaration order. -/
  fields : List Field
  /-- Makes the datum of the documents of its fields, given by name. -/
  assemble : (String → Option Document) → Except Fault α

namespace Record

instance : Functor Record where
  map f r := ⟨r.fields, fun find? => f <$> r.assemble find?⟩

instance : Seq Record where
  seq r s := ⟨r.fields ++ (s ()).fields, fun find? => r.assemble find? <*> (s ()).assemble find?⟩

/-- A field whose absence is covered by `absent`. -/
def field {α : Type} (name : String) (omissible : Bool) (absent : Except Fault α)
    (d : Decoder α) : Record α where
  fields := [⟨name, omissible, fun doc => do let _ ← d doc⟩]
  assemble find? :=
    match find? name with
    | some doc => d doc
    | none => absent

/-- A field that has to be there. -/
def required {α : Type} (name : String) (d : Decoder α) : Record α :=
  field name false (.error .mismatched) d

/-- A field with a default for its absence. -/
def defaulted {α : Type} (name : String) (d : Decoder α) (default : α) : Record α :=
  field name true (.ok default) d

/-- A field that may be absent from an object or `null`, but has to have its place in an
array. -/
def nullable {α : Type} (name : String) (d : Decoder α) : Record (Option α) :=
  field name false (.ok none) d.optional

/-- Reads the members of an object in their order, `seen` being the fields already read. -/
def checkMembers (fields : List Field) (closed : Bool) :
    List String → List (Option String × Document) → Except Fault Unit
  | _, [] => if closed then .ok () else .error .malformed
  | _, (none, _) :: _ => .error .malformed
  | seen, (some name, d) :: rest =>
    match fields.find? (·.name == name) with
    | none =>
      if d.isSkippable then checkMembers fields closed seen rest else .error .malformed
    | some field => do
      if seen.contains name then .error .mismatched
      field.check d
      checkMembers fields closed (name :: seen) rest

/-- Reads the items of an array as the given fields. -/
def checkItems (closed : Bool) : List Field → List Document → Except Fault Unit
  | [], [] => if closed then .ok () else .error .malformed
  | [], _ :: _ => .error .malformed
  | field :: fields, [] =>
    if !closed then .error .malformed
    else if field.omissible then checkItems closed fields []
    else .error .mismatched
  | field :: fields, d :: items => do
    field.check d
    checkItems closed fields items

/-- Reads the record off an object, or off an array of its fields. -/
def decoder {α : Type} (r : Record α) : Decoder α
  | .object members closed => do
    checkMembers r.fields closed [] members
    r.assemble fun name => members.lookup (some name)
  | .array items closed => do
    checkItems closed r.fields items
    r.assemble fun name => ((r.fields.map (·.name)).zip items).lookup name
  | d => Decoder.unexpected d

end Record

/-- Reads a datum off a whole text. Text after the datum is a fault of the text. -/
def Decoder.ofRead {α : Type} (d : Decoder α) (read : Document × Bool) : Except Fault α := do
  let a ← d read.1
  if read.2 then .ok a else .error .malformed

/-- Reads a datum off a tree. -/
def Decoder.ofJson {α : Type} (d : Decoder α) (j : Json) : Except Fault α :=
  d (Document.ofJson j)

end Ingestion.Json
