import Ingestion.Json.Double
import Ingestion.Table

/-!
# JSON values

`Json` is the tree that a JSON text stands for. Two trees may stand for the same data, because
an object may list its members in any order and may even repeat a name. `Json.Value` is the
subtype of the trees that do neither, at any depth: it holds exactly one tree for each datum.

A whole number is kept with all its digits, any other number as a sign and the double that it is
rounded to.
-/

namespace Ingestion

/-- A number of a JSON text. -/
inductive Json.Number where
  /-- A whole number, written without a fraction and without an exponent. -/
  | int (n : Int)
  /-- A number that is not held as a whole number. Zero has a sign too. -/
  | double (negative : Bool) (magnitude : Double)
deriving DecidableEq, Repr, Inhabited

/-- The tree of a JSON text. -/
inductive Json where
  | null
  | bool (b : Bool)
  | number (n : Json.Number)
  | string (s : String)
  | array (items : List Json)
  | object (members : List (String × Json))
deriving Inhabited, Repr

namespace Json

/-- The tree of a whole number. -/
def int (n : Int) : Json :=
  .number (.int n)

/-- The tree of a natural number. -/
def nat (n : Nat) : Json :=
  .number (.int n)

/-- The tree of a value that may be missing: `null` stands for none. -/
def ofOption {α : Type} (toJson : α → Json) : Option α → Json
  | none => .null
  | some a => toJson a

/-- The tree of a list. -/
def ofList {α : Type} (toJson : α → Json) (xs : List α) : Json :=
  .array (xs.map toJson)

/-! ## One tree for each datum -/

mutual

/-- Whether every object of the tree lists its members by ascending name, each name once. -/
def isCanonical : Json → Bool
  | .array items => areCanonical items
  | .object members => namesAscend members && membersAreCanonical members
  | _ => true

/-- Whether every tree of the list is canonical. -/
def areCanonical : List Json → Bool
  | [] => true
  | j :: rest => j.isCanonical && areCanonical rest

/-- Whether every value of the members is canonical. -/
def membersAreCanonical : List (String × Json) → Bool
  | [] => true
  | (_, j) :: rest => j.isCanonical && membersAreCanonical rest

/-- Whether the names of the members ascend. -/
def namesAscend : List (String × Json) → Bool
  | [] => true
  | m :: rest => rest.all (fun m' => decide (m.1 < m'.1)) && namesAscend rest

end

theorem namesAscend_iff (members : List (String × Json)) :
    namesAscend members = true ↔ Ascending members := by
  induction members with
  | nil => simp [namesAscend, Ascending]
  | cons m rest ih =>
    rw [namesAscend, Bool.and_eq_true, ih]
    simp [Ascending, List.pairwise_cons, List.all_eq_true]

theorem areCanonical_iff (items : List Json) :
    areCanonical items = true ↔ ∀ j ∈ items, j.isCanonical = true := by
  induction items with
  | nil => simp [areCanonical]
  | cons j rest ih => simp [areCanonical, ih]

theorem membersAreCanonical_iff (members : List (String × Json)) :
    membersAreCanonical members = true ↔ ∀ m ∈ members, m.2.isCanonical = true := by
  induction members with
  | nil => simp [membersAreCanonical]
  | cons m rest ih => simp [membersAreCanonical, ih]

/-- A tree in the one form in which data is kept: every object lists its members by ascending
name, each name once. -/
def Value : Type :=
  { j : Json // j.isCanonical = true }

namespace Value

/-- The tree of a value. -/
def toJson (v : Value) : Json :=
  v.val

theorem ext {a b : Value} (h : a.toJson = b.toJson) : a = b :=
  Subtype.ext h

instance : Inhabited Value := ⟨⟨.null, rfl⟩⟩

/-- The value without data. -/
def null : Value :=
  ⟨.null, rfl⟩

/-- The value of a natural number. -/
def nat (n : Nat) : Value :=
  ⟨.nat n, rfl⟩

/-- The value of a text. -/
def string (s : String) : Value :=
  ⟨.string s, rfl⟩

/-- The value of a list. -/
def array (items : List Value) : Value :=
  ⟨.array (items.map toJson), by
    rw [isCanonical, areCanonical_iff]
    intro j hj
    obtain ⟨v, _, rfl⟩ := List.mem_map.1 hj
    exact v.property⟩

end Value

/-- The members of an object of values, by ascending name. -/
abbrev Members : Type :=
  Table String Value

namespace Members

/-- The tree of an object. -/
def toJson (ms : Members) : Json :=
  .object (ms.toList.map fun m => (m.1, m.2.toJson))

theorem isCanonical_toJson (ms : Members) : ms.toJson.isCanonical = true := by
  rw [toJson, isCanonical, Bool.and_eq_true, namesAscend_iff, membersAreCanonical_iff]
  constructor
  · exact List.pairwise_map.2 ms.ascending
  · intro m hm
    obtain ⟨e, _, rfl⟩ := List.mem_map.1 hm
    exact e.2.property

end Members

/-- The value of an object. -/
def Value.object (ms : Members) : Value :=
  ⟨ms.toJson, ms.isCanonical_toJson⟩

/-- The members of a value that is an object. -/
def Value.members? (v : Value) : Option Members :=
  match v with
  | ⟨.object members, h⟩ =>
    have h : Ascending members ∧ ∀ m ∈ members, m.2.isCanonical = true := by
      rw [isCanonical, Bool.and_eq_true, namesAscend_iff, membersAreCanonical_iff] at h
      exact h
    some ⟨members.pmap (fun m hm => (m.1, ⟨m.2, hm⟩)) h.2,
      (List.pairwise_pmap _).2 (h.1.imp fun hlt _ _ => hlt)⟩
  | _ => none

namespace Value

@[simp]
theorem members?_object (ms : Members) : (Value.object ms).members? = some ms := by
  obtain ⟨entries, hentries⟩ := ms
  have hlist : (entries.map fun m => (m.1, m.2.toJson)).pmap
      (fun m hm => (m.1, (⟨m.2, hm⟩ : Value)))
      (by simp only [List.mem_map]; rintro _ ⟨e, -, rfl⟩; exact e.2.property) = entries := by
    rw [List.pmap_map]
    exact (List.pmap_eq_map _).trans (List.map_id _)
  exact congrArg some (Table.ext_toList hlist)

/-- The members of a value are those of the object that it is. -/
theorem members?_eq_some_iff {v : Value} {ms : Members} :
    v.members? = some ms ↔ v = .object ms := by
  constructor
  · intro h
    obtain ⟨j, hj⟩ := v
    cases j with
    | object members =>
      refine ext ?_
      rw [← Option.some.inj h]
      simp [toJson, Value.object, Members.toJson, List.map_pmap]
    | _ => cases h
  · rintro rfl
    exact members?_object ms

theorem toJson_eq_null_iff {v : Value} : v.toJson = .null ↔ v = .null :=
  ⟨fun h => ext h, fun h => congrArg toJson h⟩

end Value

end Json

end Ingestion
