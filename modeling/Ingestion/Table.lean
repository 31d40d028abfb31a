/-!
# Tables

A table gives values to keys, one value at most to each key, and lists its entries by ascending
key. Two tables with the same entries are equal, so a table has one written form.

The order of the keys is `<`. `KeyOrder` says what is asked of it, and brings along how it is
decided, so that a type of keys has one way of being kept in tables.
-/

namespace Ingestion

variable {κ ν : Type}

/-! ## Keys -/

/-- Keys with a strict order in which any two different keys are comparable. -/
class KeyOrder (κ : Type) [LT κ] where
  decidableLT : DecidableLT κ
  decidableEq : DecidableEq κ
  irrefl : ∀ a : κ, ¬ a < a
  trans : ∀ {a b c : κ}, a < b → b < c → a < c
  connected : ∀ {a b : κ}, ¬ a < b → ¬ b < a → a = b

instance (priority := low) [LT κ] [KeyOrder κ] : DecidableLT κ :=
  KeyOrder.decidableLT

instance (priority := low) [LT κ] [KeyOrder κ] : DecidableEq κ :=
  KeyOrder.decidableEq

/-- Texts are ordered by their characters. -/
instance : KeyOrder String where
  decidableLT := String.decidableLT
  decidableEq := instDecidableEqString
  irrefl := String.lt_irrefl
  trans := String.lt_trans
  connected hab hba := String.le_antisymm (String.not_lt.1 hba) (String.not_lt.1 hab)

instance : KeyOrder Nat where
  decidableLT := Nat.decLt
  decidableEq := instDecidableEqNat
  irrefl := Nat.lt_irrefl
  trans := Nat.lt_trans
  connected hab hba := Nat.le_antisymm (Nat.not_lt.1 hba) (Nat.not_lt.1 hab)

/-! ## Lists sorted by key -/

/-- The keys of an association list ascend, and so none occurs twice. -/
def Ascending [LT κ] (entries : List (κ × ν)) : Prop :=
  entries.Pairwise (fun a b => a.1 < b.1)

namespace Ascending

variable [LT κ] [KeyOrder κ]

/-- Gives `value` to `key` in a list with ascending keys: an entry of this key is replaced. -/
def put (key : κ) (value : ν) : List (κ × ν) → List (κ × ν)
  | [] => [(key, value)]
  | entry :: rest =>
    if key = entry.1 then (key, value) :: rest
    else if key < entry.1 then (key, value) :: entry :: rest
    else entry :: put key value rest

theorem mem_put {key : κ} {value : ν} {entries : List (κ × ν)} {e : κ × ν}
    (h : e ∈ put key value entries) : e = (key, value) ∨ e ∈ entries := by
  induction entries with
  | nil => simpa [put] using h
  | cons entry rest ih =>
    rw [put] at h
    split at h
    · rcases List.mem_cons.1 h with h | h
      · exact .inl h
      · exact .inr (List.mem_cons_of_mem _ h)
    · split at h
      · rcases List.mem_cons.1 h with h | h
        · exact .inl h
        · exact .inr h
      · rcases List.mem_cons.1 h with h | h
        · exact .inr (h ▸ List.mem_cons_self)
        · exact (ih h).imp_right (List.mem_cons_of_mem _)

/-- Putting an entry keeps the keys ascending. -/
theorem ascending_put (key : κ) (value : ν) {entries : List (κ × ν)} (h : Ascending entries) :
    Ascending (put key value entries) := by
  induction entries with
  | nil => simp [put, Ascending]
  | cons entry rest ih =>
    have ⟨hhead, hrest⟩ := List.pairwise_cons.1 h
    rw [put]
    split
    · next heq => exact List.pairwise_cons.2 ⟨fun e he => heq ▸ hhead e he, hrest⟩
    · next hne =>
      split
      · next hlt =>
        refine List.pairwise_cons.2 ⟨fun e he => ?_, h⟩
        rcases List.mem_cons.1 he with rfl | he
        · exact hlt
        · exact KeyOrder.trans hlt (hhead e he)
      · next hnlt =>
        refine List.pairwise_cons.2 ⟨fun e he => ?_, ih hrest⟩
        rcases mem_put he with rfl | he
        · exact Decidable.byContradiction fun h' => hne (KeyOrder.connected hnlt h')
        · exact hhead e he

end Ascending

/-! ## Tables -/

/-- Values given to keys, listed by ascending key. -/
structure Table (κ ν : Type) [LT κ] where
  /-- The entries by ascending key. -/
  toList : List (κ × ν)
  ascending : Ascending toList

namespace Table

theorem ext_toList [LT κ] {t u : Table κ ν} (h : t.toList = u.toList) : t = u := by
  cases t
  cases u
  cases h
  rfl

variable [LT κ] [KeyOrder κ]

/-- The table without entries. -/
def empty : Table κ ν :=
  ⟨[], List.Pairwise.nil⟩

instance : Inhabited (Table κ ν) := ⟨empty⟩

/-- Gives `value` to `key`, in place of the value it may have had. -/
def insert (t : Table κ ν) (key : κ) (value : ν) : Table κ ν :=
  ⟨Ascending.put key value t.toList, Ascending.ascending_put key value t.ascending⟩

/-- The value of `key`, if it has one. -/
def find? (t : Table κ ν) (key : κ) : Option ν :=
  t.toList.lookup key

/-- The table without the entry of `key`. -/
def erase (t : Table κ ν) (key : κ) : Table κ ν :=
  ⟨t.toList.filter (·.1 ≠ key), t.ascending.filter _⟩

/-- The table of the given entries. Of several for one key the last counts. -/
def ofList (entries : List (κ × ν)) : Table κ ν :=
  entries.foldl (fun t e => t.insert e.1 e.2) empty

/-- The table with the entries of `more` put in. -/
def insertAll (t : Table κ ν) (more : List (κ × ν)) : Table κ ν :=
  more.foldl (fun t e => t.insert e.1 e.2) t

/-- The keys, ascending. -/
def keys (t : Table κ ν) : List κ :=
  t.toList.map (·.1)

/-- The values by ascending key. -/
def values (t : Table κ ν) : List ν :=
  t.toList.map (·.2)

/-- How many keys have a value. -/
def size (t : Table κ ν) : Nat :=
  t.toList.length

end Table

end Ingestion
