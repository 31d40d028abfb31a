import Mathlib
import Ingestion.Proofs.Concurrent.Freshness
import Ingestion.Proofs.Request.Record

/-!
# Where the records of a run come from

Every blueprint that is saved in a run is either new, under an identifier drawn before, or comes
from a patch that has read an older version before (`Run.Exchanges.save_origin`). It is what
validation completes, by replies that the request gets.

An identifier that is drawn has never been stored before, and is stored only by the request that
drew it, or after that request has stored it.
-/

namespace Ingestion

theorem Blueprint.Completes.id_eq {replies : (c : Call) → c.Reply → Prop} {b b' : Blueprint}
    (h : b.Completes replies b') : b'.id = b.id := by
  rw [h.fields]
  rfl

theorem Blueprint.Completes.mode_eq {replies : (c : Call) → c.Reply → Prop} {b b' : Blueprint}
    (h : b.Completes replies b') : b'.mode = b.mode := by
  rw [h.fields]
  rfl

namespace Run

variable {registry : Registry}

/-- The request `k` makes a call and gets the reply at some moment of the run. -/
def Occurs (r : Run registry) (k : Nat) (c : Call) (reply : c.Reply) : Prop :=
  ∃ i, r.Exchanges i k c reply

/-- The request `k` has arrived by the moment `i` and is of the command `c`. -/
def Carries (r : Run registry) (i k : Nat) (c : Command) : Prop :=
  ∃ p, (r.state i).requests[k]? = some p ∧ p.command = c

/-- Before the moment `i` the request `k` has drafted a blueprint: a new one under an identifier
that it has drawn, or a changed one that it has read. After that it has read the time of the draft
from the clock. -/
inductive Drafted (r : Run registry) (i k : Nat) : Command → Blueprint → Prop
  | create {d : Draft} {id : Uuid} {t : Instant} {m : Nat} (hm : m < i)
      (h : r.Exchanges m k .freshId id) {x : Nat} (hmx : m < x) (hx : x < i)
      (hnow : r.Exchanges x k .now t) : Drafted r i k (.create d) (d.toBlueprint id t)
  | patch {id : Uuid} {p : Patch} {b : Blueprint} {t : Instant} {m : Nat} (hm : m < i)
      (h : r.Exchanges m k (.findBlueprint id) (.ok (some b))) {x : Nat} (hmx : m < x) (hx : x < i)
      (hnow : r.Exchanges x k .now t) : Drafted r i k (.patch id p) (p.apply b t)

/-- What is known of a request by its stage. -/
def KnownRecord (r : Run registry) (i k : Nat) (c : Command) : RecordStage → Prop
  | .start | .refused | .written => True
  | .named id => ∃ m < i, r.Exchanges m k .freshId id
  | .read b => ∃ id p, c = .patch id p ∧
      ∃ m < i, r.Exchanges m k (.findBlueprint id) (.ok (some b))
  | .drafted b => r.Drafted i k c b

variable {r : Run registry}

theorem Drafted.succ {i k : Nat} {c : Command} {b : Blueprint} (h : r.Drafted i k c b) :
    r.Drafted (i + 1) k c b := by
  cases h with
  | create hm h hmx hx hnow =>
    exact .create (Nat.lt_succ_of_lt hm) h hmx (Nat.lt_succ_of_lt hx) hnow
  | patch hm h hmx hx hnow =>
    exact .patch (Nat.lt_succ_of_lt hm) h hmx (Nat.lt_succ_of_lt hx) hnow

theorem KnownRecord.succ {i k : Nat} {c : Command} {s : RecordStage}
    (h : r.KnownRecord i k c s) : r.KnownRecord (i + 1) k c s := by
  cases s with
  | named id =>
    obtain ⟨m, hm, he⟩ := h
    exact ⟨m, Nat.lt_succ_of_lt hm, he⟩
  | read b =>
    obtain ⟨id, p, hc, m, hm, he⟩ := h
    exact ⟨id, p, hc, m, Nat.lt_succ_of_lt hm, he⟩
  | drafted b => exact Drafted.succ h
  | _ => trivial

theorem KnownRecord.next {i k : Nat} {c : Command} {s s' : RecordStage} {call : Call}
    {reply : call.Reply} (he : r.Exchanges i k call reply)
    (hnext : RecordStage.Next (r.Occurs k) c s call reply s') (h : r.KnownRecord i k c s) :
    r.KnownRecord (i + 1) k c s' := by
  cases hnext with
  | name => exact ⟨i, Nat.lt_succ_self i, he⟩
  | draft =>
    obtain ⟨m, hm, hid⟩ := h
    exact .create (Nat.lt_succ_of_lt hm) hid hm (Nat.lt_succ_self i) he
  | read => exact ⟨_, _, rfl, i, Nat.lt_succ_self i, he⟩
  | change =>
    obtain ⟨id, p, hc, m, hm, hread⟩ := h
    cases hc
    exact .patch (Nat.lt_succ_of_lt hm) hread hm (Nat.lt_succ_self i) he
  | other => exact h.succ
  | _ => trivial

theorem exists_record_stage {i k : Nat} {p : Pending}
    (hp : (r.state i).requests[k]? = some p) :
    ∃ s, p.rest.Obeys (p.command.record (r.Occurs k)) s p.command.Recorded ∧
      r.KnownRecord i k p.command s := by
  refine r.exists_stage (fun k c => c.record (r.Occurs k)) (fun _ c => c.obeys_record) ?_
    r.KnownRecord ?_ ?_ ?_ i k hp
  · exact fun i k c reply he _ => ⟨i, he⟩
  · exact fun _ _ _ _ => trivial
  · exact fun i k c s _ h => h.succ
  · exact fun i k c s call reply s' he hnext h => h.next he hnext

/-- A saved blueprint is what validation has made of a draft of its request. -/
theorem Exchanges.save_passes {w k : Nat} {b' : Blueprint}
    (he : r.Exchanges w k (.saveBlueprint b') (.ok ())) :
    ∃ c b, r.Carries w k c ∧ r.Drafted w k c b ∧ b.Passes (r.Occurs k) b' := by
  obtain ⟨p, next, hp, hrest, -⟩ := he.requests_get
  obtain ⟨s, hs, hknown⟩ := exists_record_stage hp
  rw [hrest] at hs
  obtain ⟨s', hnext, -⟩ := hs (.ok ()) ⟨w, he⟩
  generalize hc : p.command = c at hnext hknown
  cases hnext with
  | save hpasses => exact ⟨c, _, ⟨p, hp, hc⟩, hknown, hpasses⟩
  | other hwrite => cases hwrite

/-- A saved blueprint completes a draft of its request. -/
theorem Exchanges.save_origin {w k : Nat} {b' : Blueprint}
    (he : r.Exchanges w k (.saveBlueprint b') (.ok ())) :
    ∃ c b, r.Carries w k c ∧ r.Drafted w k c b ∧ b.Completes (r.Occurs k) b' := by
  obtain ⟨c, b, hcarries, hdrafted, hpasses⟩ := he.save_passes
  exact ⟨c, b, hcarries, hdrafted, hpasses.toCompletes⟩

/-- Only a request to delete a blueprint does so. -/
theorem Exchanges.delete_origin {w k : Nat} {id : Uuid} {reply : (Call.deleteBlueprint id).Reply}
    (he : r.Exchanges w k (.deleteBlueprint id) reply) : r.Carries w k (.delete id) := by
  obtain ⟨p, next, hp, hrest, -⟩ := he.requests_get
  obtain ⟨s, hs, -⟩ := exists_record_stage hp
  rw [hrest] at hs
  obtain ⟨s', hnext, -⟩ := hs reply ⟨w, he⟩
  generalize hc : p.command = c at hnext
  cases hnext with
  | delete => exact ⟨p, hp, hc⟩
  | absent => exact ⟨p, hp, hc⟩
  | other hwrite => cases hwrite

theorem Carries.unique {i j k : Nat} {c c' : Command} (h : r.Carries i k c)
    (h' : r.Carries j k c') : c = c' := by
  have hle {i j : Nat} {c c' : Command} (hij : i ≤ j) (h : r.Carries i k c)
      (h' : r.Carries j k c') : c = c' := by
    obtain ⟨p, hp, rfl⟩ := h
    obtain ⟨q, hq, rfl⟩ := h'
    obtain ⟨p', hp', hcommand⟩ := r.command_stays hij hp
    rw [← hcommand, Option.some.inj (hp'.symm.trans hq)]
  rcases Nat.le_total i j with hij | hij
  · exact hle hij h h'
  · exact (hle hij h' h).symm

/-! ## Reading and drawing identifiers -/

theorem Exchanges.findBlueprint_reply {m k : Nat} {id : Uuid}
    {reply : (Call.findBlueprint id).Reply} (h : r.Exchanges m k (.findBlueprint id) reply) :
    reply = .ok ((r.memory m).findBlueprint id) :=
  h.reply_eq fun _ => rfl

theorem Exchanges.found {m k : Nat} {id : Uuid} {b : Blueprint}
    (h : r.Exchanges m k (.findBlueprint id) (.ok (some b))) :
    (r.memory m).findBlueprint id = some b :=
  (Except.ok.inj h.findBlueprint_reply).symm

/-- The identifiers in use at a moment. -/
def issued (r : Run registry) (i : Nat) : List Uuid :=
  (r.state i).shared.issued

theorem issued_mono {i j : Nat} (hij : i ≤ j) {id : Uuid} (h : id ∈ r.issued i) :
    id ∈ r.issued j := by
  induction j, hij using Nat.le_induction with
  | base => exact h
  | succ j hij ih =>
    rcases r.step_cases j with ⟨k, c, reply, he⟩ | ho
    · exact he.frame.issued id ih
    · rw [issued, ho.issued]
      exact ih

theorem Exchanges.drawn {m k : Nat} {id : Uuid} (h : r.Exchanges m k .freshId id) :
    id ∉ r.issued m ∧ id ∈ r.issued (m + 1) := by
  obtain ⟨chance, hanswer⟩ := h.exists_answer
  exact Shared.answer_freshId hanswer

/-- An identifier is drawn once at most. -/
theorem Exchanges.draw_unique {m m' k k' : Nat} {id : Uuid} (h : r.Exchanges m k .freshId id)
    (h' : r.Exchanges m' k' .freshId id) : k = k' := by
  rcases Nat.lt_trichotomy m m' with hlt | rfl | hlt
  · exact absurd (issued_mono hlt h.drawn.2) h'.drawn.1
  · exact (h.unique h').1
  · exact absurd (issued_mono hlt h'.drawn.2) h.drawn.1

theorem Exchanges.saved {w k : Nat} {b : Blueprint}
    (h : r.Exchanges w k (.saveBlueprint b) (.ok ())) :
    (r.memory (w + 1)).blueprints = (r.memory w).blueprints.insert b.id b := by
  obtain ⟨chance, hanswer⟩ := h.exists_answer
  exact Shared.answer_save_ok hanswer

theorem Exchanges.deleted {w k : Nat} {id : Uuid} {reply : (Call.deleteBlueprint id).Reply}
    (h : r.Exchanges w k (.deleteBlueprint id) reply) :
    reply = .ok ((r.memory w).findBlueprint id).isSome ∧
      (r.memory (w + 1)).blueprints = (r.memory w).blueprints.erase id := by
  obtain ⟨chance, hanswer⟩ := h.exists_answer
  exact Shared.answer_delete hanswer

/-- What is stored after a step was stored before it, or has just been saved. -/
theorem stored_cases {i : Nat} {id : Uuid} {b : Blueprint}
    (h : (r.memory (i + 1)).findBlueprint id = some b) :
    (r.memory i).findBlueprint id = some b ∨
      ∃ k, r.Exchanges i k (.saveBlueprint b) (.ok ()) ∧ b.id = id := by
  rw [Memory.findBlueprint] at h
  rcases r.blueprints_eq_or_writes i with hi | ⟨k, ⟨b', hw⟩ | ⟨id', hw⟩⟩
  · rw [hi] at h
    exact .inl h
  · rw [hw.saved, Table.find?_insert] at h
    split at h
    · next hid =>
      cases h
      exact .inr ⟨k, hw, hid.symm⟩
    · exact .inl h
  · rw [hw.deleted.2, Table.find?_erase] at h
    split at h
    · cases h
    · exact .inl h

/-- If the store is empty at first, what is stored has been saved before. -/
theorem exists_save_of_stored (hempty : (r.memory 0).blueprints = Table.empty) {i : Nat} {id : Uuid}
    {b : Blueprint} (h : (r.memory i).findBlueprint id = some b) :
    b.id = id ∧ ∃ w < i, ∃ k, r.Exchanges w k (.saveBlueprint b) (.ok ()) := by
  induction i with
  | zero =>
    rw [Memory.findBlueprint, hempty, Table.find?_empty] at h
    cases h
  | succ i ih =>
    rcases stored_cases h with h | ⟨k, he, hid⟩
    · obtain ⟨hid, w, hw, hsave⟩ := ih h
      exact ⟨hid, w, Nat.lt_succ_of_lt hw, hsave⟩
    · exact ⟨hid, i, Nat.lt_succ_self i, k, he⟩

/-- If the identifiers of all that has been stored are in use, so is the one of what is saved. -/
theorem Exchanges.save_issued_of {w k : Nat} {b : Blueprint}
    (h : r.Exchanges w k (.saveBlueprint b) (.ok ()))
    (hstored : ∀ m < w, ∀ id o, (r.memory m).findBlueprint id = some o → id ∈ r.issued m) :
    b.id ∈ r.issued w := by
  obtain ⟨c, b₀, -, hdrafted, hcompletes⟩ := h.save_origin
  rw [hcompletes.id_eq]
  cases hdrafted with
  | create hm hdraw => exact issued_mono hm hdraw.drawn.2
  -- The patch keeps the identifier that it has read at an earlier moment.
  | patch hm hread =>
    have hfound := hread.found
    rw [← r.keyed _ hfound] at hfound
    exact issued_mono hm.le (hstored _ hm _ _ hfound)

/-- A stored blueprint is kept from the beginning or has been saved. Its identifier is in use. -/
theorem mem_issued {i : Nat} {id : Uuid} {b : Blueprint}
    (h : (r.memory i).findBlueprint id = some b) : id ∈ r.issued i := by
  induction i using Nat.strong_induction_on generalizing id b with
  | _ i ih =>
    cases i with
    | zero => exact r.initial.issued id b h
    | succ i =>
      rcases stored_cases h with h | ⟨k, he, rfl⟩
      · exact issued_mono (Nat.le_succ i) (ih i (Nat.lt_succ_self i) h)
      · have hissued := he.save_issued_of fun m hm id o ho => ih m (Nat.lt_succ_of_lt hm) ho
        exact issued_mono (Nat.le_succ i) hissued

/-- A blueprint is saved under an identifier that is in use. -/
theorem Exchanges.save_issued {w k : Nat} {b : Blueprint}
    (h : r.Exchanges w k (.saveBlueprint b) (.ok ())) : b.id ∈ r.issued w :=
  h.save_issued_of fun _ _ _ _ ho => mem_issued ho

/-- A blueprint whose identifier has been drawn is stored only after its request has saved it. -/
theorem Exchanges.writes_of_stored {m k i : Nat} {id : Uuid} {b : Blueprint}
    (hdraw : r.Exchanges m k .freshId id) (h : (r.memory i).findBlueprint id = some b) :
    ∃ w < i, r.Writes w k := by
  induction i using Nat.strong_induction_on generalizing b with
  | _ i ih =>
    have hmi : m < i := by
      by_contra him
      exact hdraw.drawn.1 (issued_mono (by omega) (mem_issued h))
    cases i with
    | zero => exact absurd hmi (Nat.not_lt_zero m)
    | succ i =>
      rcases stored_cases h with h | ⟨k', he, rfl⟩
      · obtain ⟨w, hw, hwk⟩ := ih i (Nat.lt_succ_self i) h
        exact ⟨w, Nat.lt_succ_of_lt hw, hwk⟩
      · obtain ⟨c, b₀, -, hdrafted, hcompletes⟩ := he.save_origin
        rw [hcompletes.id_eq] at hdraw ih
        cases hdrafted with
        | create hm hdraw' =>
          rw [hdraw.draw_unique hdraw']
          exact ⟨i, Nat.lt_succ_self i, .inl ⟨_, he⟩⟩
        | patch hm hread =>
          have hstored := hread.found
          rw [← r.keyed _ hstored] at hstored
          obtain ⟨w, hw, hwk⟩ := ih _ (by omega) hstored
          exact ⟨w, by omega, hwk⟩

end Run

end Ingestion
