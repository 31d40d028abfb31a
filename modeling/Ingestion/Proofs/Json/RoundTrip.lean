import Mathlib
import Ingestion.Json.Decoder
import Ingestion.Proofs.Json.SameData

/-!
# Reading back what is written

A decoder reads back what is written (`Decoder.ReadsBack`) if it gives a datum for its tree, and for
every tree of the same data: no decoder depends on the order in which an object lists its members.

For a record, `Record.Reads` says that its fields are read off members, of which only the data
counts. It has a rule for each way in which records are put together: a field that is a member, a
field that is absent, a function of a record, and a record after a record. An object is then read as
the record (`Record.decoder_object`) if its members are fields. Some of the fields may be left out.
-/

namespace Ingestion.Json

/-! ## Decoders -/

namespace Decoder

variable {α : Type}

/-- A datum is read off a tree, and off any tree of the same data. -/
def ReadsAs (d : Decoder α) (j : Json) (a : α) : Prop :=
  ∀ j', SameData j j' → d.ofJson j' = .ok a

/-- Any datum is read off the tree that it is written as. -/
def ReadsBack (d : Decoder α) (toJson : α → Json) : Prop :=
  ∀ a, d.ReadsAs (toJson a) a

theorem ReadsBack.ofJson_toJson {d : Decoder α} {toJson : α → Json} (h : d.ReadsBack toJson)
    (a : α) : d.ofJson (toJson a) = .ok a :=
  h a _ (.refl _)

theorem bool_readsBack : Decoder.bool.ReadsBack .bool := by
  rintro b _ ⟨⟩
  rfl

theorem string_readsBack : Decoder.string.ReadsBack .string := by
  rintro s _ ⟨⟩
  rfl

/-- What is written as a text is read back if it is read back from the text. -/
theorem parsed_readsBack {parse? : String → Option α} {text : α → String}
    (h : ∀ a, parse? (text a) = some a) :
    (parsed parse?).ReadsBack fun a => .string (text a) := by
  rintro a _ ⟨⟩
  rw [Decoder.ofJson, Document.ofJson, parsed, string]
  dsimp only [bind, Except.bind]
  rw [h]

theorem variant_readsBack {ofName? : String → Option α} {name : α → String}
    (h : ∀ a, ofName? (name a) = some a) :
    (variant ofName?).ReadsBack fun a => .string (name a) := by
  rintro a _ ⟨⟩
  rw [Decoder.ofJson, Document.ofJson, variant, h]

/-- A whole number is read back if it is accepted as what it is written for. -/
theorem whole_readsBack {accept? : Int → Option α} {number : α → Int}
    (h : ∀ a, accept? (number a) = some a) :
    (whole accept?).ReadsBack fun a => .int (number a) := by
  rintro a _ ⟨⟩
  rw [Decoder.ofJson, Document.ofJson, whole, h]

theorem nat_readsBack : Decoder.nat.ReadsBack .nat :=
  whole_readsBack fun n => if_pos (Int.natCast_nonneg n)

theorem uint32_readsBack : Decoder.uint32.ReadsBack (.nat ·.toNat) := by
  refine whole_readsBack fun n => ?_
  have hbound : (0 : Int) ≤ n.toNat ∧ (n.toNat : Int) < UInt32.size :=
    ⟨Int.natCast_nonneg _, Int.ofNat_lt.2 n.toNat_lt_size⟩
  rw [if_pos hbound, Int.toNat_natCast, UInt32.ofNat_toNat]

theorem uint64_readsBack : Decoder.uint64.ReadsBack (.nat ·.toNat) := by
  refine whole_readsBack fun n => ?_
  have hbound : (0 : Int) ≤ n.toNat ∧ (n.toNat : Int) < UInt64.size :=
    ⟨Int.natCast_nonneg _, Int.ofNat_lt.2 n.toNat_lt_size⟩
  rw [if_pos hbound, Int.toNat_natCast, UInt64.ofNat_toNat]

theorem int64_readsBack : Decoder.int64.ReadsBack (.int ·.toInt) := by
  refine whole_readsBack fun n => ?_
  rw [if_pos ⟨n.minValue_le_toInt, n.toInt_le⟩, Int64.ofInt_toInt]

theorem ReadsAs.map {β : Type} {d : Decoder α} {j : Json} {a : α} (h : d.ReadsAs j a)
    (f : α → β) : Decoder.ReadsAs (fun doc => f <$> d doc) j (f a) := by
  intro j' hj
  have hread : d (.ofJson j') = .ok a := h j' hj
  show f <$> d (.ofJson j') = _
  rw [hread]
  rfl

/-- What is not `null` is read where a datum may be missing. -/
theorem ReadsAs.optional {d : Decoder α} {j : Json} {a : α} (h : d.ReadsAs j a)
    (hnull : j ≠ .null) : d.optional.ReadsAs j (some a) := by
  intro j' hj
  have hne : j' ≠ .null := hj.ne_null hnull
  have hsome : d.optional.ofJson j' = some <$> d.ofJson j' := by
    cases j' with
    | null => exact absurd rfl hne
    | _ => rfl
  rw [hsome, h j' hj]
  rfl

/-- What may be missing is read back if it is not itself written as `null`. -/
theorem optional_readsBack {d : Decoder α} {toJson : α → Json} (h : d.ReadsBack toJson)
    (hnull : ∀ a, toJson a ≠ .null) : d.optional.ReadsBack (ofOption toJson) := by
  rintro (_ | a)
  · rintro _ ⟨⟩
    rfl
  · exact (h a).optional (hnull a)

theorem list_readsBack {d : Decoder α} {toJson : α → Json} (h : d.ReadsBack toJson) :
    (list d).ReadsBack (.ofList toJson) := by
  intro xs j hj
  obtain ⟨items, rfl, hsame⟩ : ∃ items, j = .array items ∧ SameItems (xs.map toJson) items := by
    cases hj with
    | array hsame => exact ⟨_, rfl, hsame⟩
  have hitems : (Document.ofItems items).mapM d = .ok xs := by
    clear hj
    induction xs generalizing items with
    | nil =>
      cases hsame
      rfl
    | cons a rest ih =>
      cases hsame with
      | cons hj hrest =>
        have hread : d (.ofJson _) = .ok a := h a _ hj
        rw [Document.ofItems, List.mapM_cons, hread, ih _ hrest]
        rfl
  rw [Decoder.ofJson, Document.ofJson, list, hitems]
  rfl

theorem value_readsBack : Decoder.value.ReadsBack Value.toJson := by
  intro v j h
  rw [Decoder.ofJson, value, Document.toValue?_of_sameData h]

theorem members_readsBack : Decoder.members.ReadsBack Members.toJson := by
  intro ms j h
  have hvalue : (Document.ofJson j).toValue? = some (.object ms) :=
    Document.toValue?_of_sameData (v := .object ms) h
  cases h with
  | object hmembers hperm =>
    rw [Document.ofJson] at hvalue
    rw [Decoder.ofJson, Document.ofJson, members, hvalue, Option.bind_some,
      Value.members?_object]

end Decoder

/-! ## Records -/

namespace Record

variable {α β : Type}

/-- The fields of a record are read off members that are found by name, and the record is the datum
that they make. The members found may be any of the same data as the given ones. -/
structure Reads (r : Record α) (members : List (String × Json)) (a : α) : Prop where
  checks : ∀ f ∈ r.fields, ∀ j j', members.lookup f.name = some j → SameData j j' →
    f.check (.ofJson j') = .ok ()
  assembles : ∀ find? : String → Option Json,
    (∀ name, Option.Rel SameData (members.lookup name) (find? name)) →
      r.assemble (fun name => (find? name).map .ofJson) = .ok a

variable {members : List (String × Json)}

/-- A field is read off the member of its name. -/
theorem reads_field {name : String} {omissible : Bool} {absent : Except Fault α} {d : Decoder α}
    {j : Json} {a : α} (hlookup : members.lookup name = some j) (hd : d.ReadsAs j a) :
    (field name omissible absent d).Reads members a := by
  refine ⟨?_, ?_⟩
  · intro f hf j j' hj hsame
    obtain rfl := List.mem_singleton.1 hf
    obtain rfl := Option.some.inj (hlookup.symm.trans hj)
    have hread : d (.ofJson j') = .ok a := hd j' hsame
    show (do let _ ← d (.ofJson j'); pure ()) = _
    rw [hread]
    rfl
  · intro find? hfind
    have hname := hfind name
    rw [hlookup] at hname
    generalize hfound : find? name = found at hname
    cases hname with
    | some hsame =>
      simp only [field, hfound, Option.map_some]
      exact hd _ hsame

/-- A field that is no member is what covers its absence. -/
theorem reads_field_absent {name : String} {omissible : Bool} {d : Decoder α} {a : α}
    (hlookup : members.lookup name = none) :
    (field name omissible (.ok a) d).Reads members a := by
  refine ⟨?_, ?_⟩
  · intro f hf j j' hj
    obtain rfl := List.mem_singleton.1 hf
    cases hlookup.symm.trans hj
  · intro find? hfind
    have hname := hfind name
    rw [hlookup] at hname
    generalize hfound : find? name = found at hname
    cases hname
    simp only [field, hfound, Option.map_none]

/-- A field that may be `null` is read off its member, which is always there. -/
theorem reads_nullable {name : String} {d : Decoder α} {toJson : α → Json} {o : Option α}
    (hlookup : members.lookup name = some (ofOption toJson o)) (hd : d.ReadsBack toJson)
    (hnull : ∀ a, toJson a ≠ .null) : (nullable name d).Reads members o :=
  reads_field hlookup (Decoder.optional_readsBack hd hnull o)

/-- A field that is a member only if it has a value is read as this value, or as none. -/
theorem reads_field_ifPresent {name : String} {omissible : Bool} {d : Decoder (Option α)}
    {toJson : α → Json} {o : Option α} (hlookup : members.lookup name = o.map toJson)
    (hd : ∀ a, d.ReadsAs (toJson a) (some a)) :
    (field name omissible (.ok none) d).Reads members o := by
  cases o with
  | none => exact reads_field_absent hlookup
  | some a => exact reads_field hlookup (hd a)

theorem Reads.map {r : Record α} {a : α} (h : r.Reads members a) (f : α → β) :
    (f <$> r).Reads members (f a) := by
  refine ⟨h.checks, fun find? hfind => ?_⟩
  show f <$> r.assemble _ = _
  rw [h.assembles find? hfind]
  rfl

theorem Reads.seq {r : Record (α → β)} {s : Record α} {f : α → β} {a : α} (hr : r.Reads members f)
    (hs : s.Reads members a) : (r <*> s).Reads members (f a) := by
  refine ⟨?_, fun find? hfind => ?_⟩
  · intro g hg
    rcases List.mem_append.1 hg with hg | hg
    · exact hr.checks g hg
    · exact hs.checks g hg
  · show r.assemble _ <*> s.assemble _ = _
    rw [hr.assembles find? hfind, hs.assembles find? hfind]
    rfl

/-- Members that are different fields are read without fault if each of them is. -/
theorem checkMembers_ofMembers {fields : List Field} {members : List (String × Json)}
    {seen : List String} (hnames : ∀ m ∈ members, m.1 ∈ fields.map (·.name))
    (hnodup : (members.map Prod.fst).Nodup) (hseen : ∀ m ∈ members, m.1 ∉ seen)
    (hchecks : ∀ m ∈ members, ∀ f ∈ fields, f.name = m.1 → f.check (.ofJson m.2) = .ok ()) :
    checkMembers fields true seen (Document.ofMembers members) = .ok () := by
  induction members generalizing seen with
  | nil => rfl
  | cons m rest ih =>
    obtain ⟨name, j⟩ := m
    obtain ⟨hname, hnames⟩ := List.forall_mem_cons.1 hnames
    obtain ⟨hnew, hseen⟩ := List.forall_mem_cons.1 hseen
    obtain ⟨hcheck, hchecks⟩ := List.forall_mem_cons.1 hchecks
    obtain ⟨hnot, hnodup⟩ := List.nodup_cons.1 hnodup
    -- A member that comes later has another name than those seen by then.
    have hother : ∀ m ∈ rest, m.1 ∉ name :: seen := by
      intro m hm hmem
      rcases List.mem_cons.1 hmem with heq | hmem
      · exact hnot (List.mem_map.2 ⟨m, hm, heq⟩)
      · exact hseen m hm hmem
    rw [Document.ofMembers, checkMembers]
    cases hfield : fields.find? (·.name == name) with
    | none =>
      obtain ⟨f, hf, heq⟩ := List.mem_map.1 hname
      exact absurd (beq_iff_eq.2 heq) (List.find?_eq_none.1 hfield f hf)
    | some f =>
      have hf : f ∈ fields := List.mem_of_find?_eq_some hfield
      have heq : f.name = name := by simpa using List.find?_some hfield
      have hfalse : seen.contains name = false := by simpa using hnew
      dsimp only
      rw [hfalse, hcheck f hf heq]
      exact ih hnames hnodup hother hchecks

/-- An object is read as a record if its members are some of the fields. -/
theorem decoder_object {r : Record α} {a : α} {j : Json}
    (hnodup : (r.fields.map (·.name)).Nodup)
    (hnames : (members.map Prod.fst).Sublist (r.fields.map (·.name))) (h : r.Reads members a)
    (hj : SameData (.object members) j) : r.decoder.ofJson j = .ok a := by
  cases hj with
  | @object _ ms members' hsame hperm =>
    have hms : (ms.map Prod.fst).Nodup := hsame.names_eq ▸ hnodup.sublist hnames
    have hmembers : (members'.map Prod.fst).Nodup := (hperm.map Prod.fst).nodup_iff.1 hms
    have hfind (name : String) :
        Option.Rel SameData (members.lookup name) (members'.lookup name) := by
      rw [← lookup_eq_of_perm hperm hms]
      exact hsame.lookup name
    have hmem : ∀ m ∈ members', m.1 ∈ r.fields.map (·.name) := by
      intro m hm
      refine hnames.subset ?_
      rw [hsame.names_eq]
      exact (hperm.map Prod.fst).mem_iff.2 (List.mem_map_of_mem hm)
    have hcheck : checkMembers r.fields true [] (Document.ofMembers members') = .ok () := by
      refine checkMembers_ofMembers hmem hmembers (fun m _ => List.not_mem_nil) ?_
      intro m hm f hf heq
      have hrel := hfind m.1
      rw [lookup_of_nodup hmembers hm, ← heq] at hrel
      generalize hlookup : members.lookup f.name = found at hrel
      cases hrel with
      | some hsame => exact h.checks f hf _ _ hlookup hsame
    have hassemble : r.assemble (fun name => (Document.ofMembers members').lookup (some name)) =
        .ok a := by
      simp only [Document.lookup_ofMembers]
      exact h.assembles _ hfind
    rw [Decoder.ofJson, Document.ofJson, decoder, hcheck]
    exact hassemble

end Record

end Ingestion.Json
