import Ingestion.Json.Basic

/-!
# JSON documents

A document is what a reader makes of a JSON text, as far as the text can be read. It keeps the
members of an object in their order and with their repetitions, and it marks the place at which
the text breaks off: an array or object that is not closed ends at the first fault inside it.
A reader of documents can so tell which comes first, a fault of the text or a datum of the
wrong kind.
-/

namespace Ingestion.Json

/-- A JSON text as far as it can be read. -/
inductive Document where
  | null
  | bool (b : Bool)
  | number (n : Number)
  | string (s : String)
  /-- The items up to the first fault. `closed` tells that there is none before the closing
  bracket. -/
  | array (items : List Document) (closed : Bool)
  /-- The members up to the first fault. A name is `none` if it holds an escape that stands for
  no character. -/
  | object (members : List (Option String × Document)) (closed : Bool)
  /-- A place at which no value can be read. It may still be passed over if it is `skippable`:
  it follows the grammar, but is a number too large, a text with an escape that stands for no
  character, or an array or object too deep inside others. -/
  | unreadable (skippable : Bool)
deriving Inhabited

namespace Document

mutual

/-- Whether the document can be passed over: it follows the grammar to its end. -/
def isSkippable : Document → Bool
  | .unreadable skippable => skippable
  | .array items closed => areSkippable items && closed
  | .object members closed => membersAreSkippable members && closed
  | _ => true

/-- Whether every document of the list can be passed over. -/
def areSkippable : List Document → Bool
  | [] => true
  | d :: rest => d.isSkippable && areSkippable rest

/-- Whether every value of the members can be passed over. -/
def membersAreSkippable : List (Option String × Document) → Bool
  | [] => true
  | (_, d) :: rest => d.isSkippable && membersAreSkippable rest

end

mutual

/-- The document of a text without faults that stands for the tree. -/
def ofJson : Json → Document
  | .null => .null
  | .bool b => .bool b
  | .number n => .number n
  | .string s => .string s
  | .array items => .array (ofItems items) true
  | .object members => .object (ofMembers members) true

/-- The documents of the trees of a list. -/
def ofItems : List Json → List Document
  | [] => []
  | j :: rest => ofJson j :: ofItems rest

/-- The documents of the members of an object. -/
def ofMembers : List (String × Json) → List (Option String × Document)
  | [] => []
  | (name, j) :: rest => (some name, ofJson j) :: ofMembers rest

end

/-! ## The data of a document -/

/-- Puts a member before others, unless its name already stands among them. -/
def putUnlessNamed (name : String) (j : Json) (members : List (String × Json)) :
    List (String × Json) :=
  if (members.lookup name).isSome then members else Ascending.put name j members

mutual

/-- The tree of a document without faults, each object by ascending name. Of several members of
one name the last counts. -/
def toJson? : Document → Option Json
  | .null => some .null
  | .bool b => some (.bool b)
  | .number n => some (.number n)
  | .string s => some (.string s)
  | .array items true => (itemsToJson? items).map .array
  | .object members true => (membersToJson? members).map .object
  | _ => none

/-- The trees of the documents of a list, if none has a fault. -/
def itemsToJson? : List Document → Option (List Json)
  | [] => some []
  | d :: rest => do
    let j ← d.toJson?
    let items ← itemsToJson? rest
    return j :: items

/-- The members of the trees, if none has a fault. -/
def membersToJson? : List (Option String × Document) → Option (List (String × Json))
  | [] => some []
  | (some name, d) :: rest => do
    let j ← d.toJson?
    let members ← membersToJson? rest
    return putUnlessNamed name j members
  | (none, _) :: _ => none

end

theorem putUnlessNamed_canonical {name : String} {j : Json} {members : List (String × Json)}
    (hj : j.isCanonical = true) (h : (Json.object members).isCanonical = true) :
    (Json.object (putUnlessNamed name j members)).isCanonical = true := by
  rw [putUnlessNamed]
  split
  · exact h
  · rw [isCanonical, Bool.and_eq_true, namesAscend_iff, membersAreCanonical_iff] at h ⊢
    refine ⟨Ascending.ascending_put _ _ h.1, fun m hm => ?_⟩
    rcases Ascending.mem_put hm with rfl | hm
    · exact hj
    · exact h.2 m hm

mutual

theorem isCanonical_toJson? : ∀ {d : Document} {j : Json}, d.toJson? = some j →
    j.isCanonical = true
  | .null, j, h | .bool _, j, h | .number _, j, h | .string _, j, h => by
    rw [toJson?, Option.some.injEq] at h; subst h; rfl
  | .array items true, j, h => by
    rw [toJson?] at h
    obtain ⟨js, hjs, rfl⟩ := Option.map_eq_some_iff.1 h
    rw [isCanonical]
    exact areCanonical_itemsToJson? hjs
  | .object members true, j, h => by
    rw [toJson?] at h
    obtain ⟨ms, hms, rfl⟩ := Option.map_eq_some_iff.1 h
    exact isCanonical_membersToJson? hms
  | .array _ false, j, h | .object _ false, j, h | .unreadable _, j, h => by simp [toJson?] at h

theorem areCanonical_itemsToJson? : ∀ {ds : List Document} {js : List Json},
    itemsToJson? ds = some js → areCanonical js = true
  | [], js, h => by rw [itemsToJson?, Option.some.injEq] at h; subst h; rfl
  | d :: rest, js, h => by
    rw [itemsToJson?] at h
    obtain ⟨j, hj, h⟩ := Option.bind_eq_some_iff.1 h
    obtain ⟨items, hitems, h⟩ := Option.bind_eq_some_iff.1 h
    cases h
    rw [areCanonical, isCanonical_toJson? hj, areCanonical_itemsToJson? hitems]
    rfl

theorem isCanonical_membersToJson? : ∀ {ds : List (Option String × Document)}
    {ms : List (String × Json)}, membersToJson? ds = some ms →
    (Json.object ms).isCanonical = true
  | [], ms, h => by rw [membersToJson?, Option.some.injEq] at h; subst h; rfl
  | (some name, d) :: rest, ms, h => by
    rw [membersToJson?] at h
    obtain ⟨j, hj, h⟩ := Option.bind_eq_some_iff.1 h
    obtain ⟨members, hmembers, h⟩ := Option.bind_eq_some_iff.1 h
    cases h
    exact putUnlessNamed_canonical (isCanonical_toJson? hj) (isCanonical_membersToJson? hmembers)
  | (none, _) :: _, ms, h => by simp [membersToJson?] at h

end

/-- The value of a document without faults. -/
def toValue? (d : Document) : Option Value :=
  match h : d.toJson? with
  | some j => some ⟨j, isCanonical_toJson? h⟩
  | none => none

end Document

end Ingestion.Json
