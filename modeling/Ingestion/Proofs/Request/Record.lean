import Mathlib
import Ingestion.Proofs.Request.Command

/-!
# How a command changes its record

A command changes one blueprint at most, and by one write. A create draws an identifier and the
time, a patch reads the blueprint and the time; what they store is what validation completes of the
blueprint drafted so. `RecordStage.Next` tells these steps, and every command obeys it.
-/

namespace Ingestion

/-- How far a command has come with the blueprint that it changes. -/
inductive RecordStage where
  | start
  /-- An identifier has been drawn for a new blueprint. -/
  | named (id : Uuid)
  | read (b : Blueprint)
  /-- The blueprint has been made that is to be validated and stored. -/
  | drafted (b : Blueprint)
  /-- The store has refused the blueprint. -/
  | refused
  | written

/-- The calls with which a command gets on with its blueprint. -/
inductive RecordStage.Next (replies : (c : Call) → c.Reply → Prop) :
    Command → RecordStage → (c : Call) → c.Reply → RecordStage → Prop
  | name {d : Draft} {id : Uuid} : Next replies (.create d) .start .freshId id (.named id)
  | draft {d : Draft} {id : Uuid} {t : Instant} :
      Next replies (.create d) (.named id) .now t (.drafted (d.toBlueprint id t))
  | read {id : Uuid} {p : Patch} {b : Blueprint} (h : replies (.findBlueprint id) (.ok (some b))) :
      Next replies (.patch id p) .start (.findBlueprint id) (.ok (some b)) (.read b)
  | change {id : Uuid} {p : Patch} {b : Blueprint} {t : Instant} :
      Next replies (.patch id p) (.read b) .now t (.drafted (p.apply b t))
  | save {c : Command} {b b' : Blueprint} (h : b.Passes replies b') :
      Next replies c (.drafted b) (.saveBlueprint b') (.ok ()) .written
  | refuse {c : Command} {b b' : Blueprint} {e : StoreError} :
      Next replies c (.drafted b) (.saveBlueprint b') (.error e) .refused
  | delete {id : Uuid} :
      Next replies (.delete id) .start (.deleteBlueprint id) (.ok true) .written
  | absent {id : Uuid} {reply : (Call.deleteBlueprint id).Reply} (h : reply ≠ .ok true) :
      Next replies (.delete id) .start (.deleteBlueprint id) reply .refused
  | other {cmd : Command} {s : RecordStage} {c : Call} {reply : c.Reply}
      (h : c.isWrite = false) : Next replies cmd s c reply s

/-- The protocol of a command that changes its blueprint. -/
def Command.record (replies : (c : Call) → c.Reply → Prop) (c : Command) :
    Protocol RecordStage where
  Replies := replies
  Next := RecordStage.Next replies c

/-- A change that succeeds has been written. -/
def Command.Recorded (c : Command) (s : RecordStage) (r : Except RequestError c.Value) : Prop :=
  c.writes = true → ∀ v, r = .ok v → s = .written

namespace Command

open Program (Obeys)

variable {replies : (c : Call) → c.Reply → Prop}

theorem record_ignores (c : Command) (s : RecordStage) {calls : Call → Bool}
    (h : ∀ call, calls call = true → call.isWrite = false) :
    (c.record replies).Ignores s calls :=
  fun call hcall _ => .other (h call hcall)

/-- A drafted blueprint is validated, stored, and the agenda rebuilt. -/
theorem save_drafted_obeys (c : Command) (b : Blueprint) {s : RecordStage}
    (hs : s = .drafted b) :
    (do
      let b ← b.validated
      Service.save b
      Service.reload
      return b : Request Blueprint).run.Obeys (c.record replies) s fun s r =>
        ∀ v, r = .ok v → s = .written := by
  subst hs
  refine Service.change_obeys (c.record_ignores _ Call.isWrite_of_isLookup) (fun b' hb' => ?_)
    (fun b' e _ => ?_) (by rintro e v ⟨⟩)
  · exact ⟨.written, .save hb', c.record_ignores _ Call.isWrite_of_isUpkeep, fun _ _ => rfl,
      by rintro e v ⟨⟩⟩
  · exact ⟨.refused, .refuse, c.record_ignores _ Call.isWrite_of_isLookup, by rintro e v ⟨⟩⟩

theorem create_obeys_record (d : Draft) :
    (create d).program.Obeys ((create d).record replies) .start fun s r =>
      ∀ v, r = .ok v → s = .written := by
  change (Service.create d).run.Obeys _ _ _
  unfold Service.create
  refine Obeys.andThen (Q := fun s r => ∃ id, r = .ok id ∧ s = .named id)
    (Obeys.always (Obeys.ask fun id _ => ⟨_, .name, id, rfl, rfl⟩)) ?_ (by rintro s e ⟨id, ⟨⟩, -⟩)
  rintro s id ⟨_, ⟨⟩, rfl⟩
  refine Obeys.andThen (Q := fun s r => ∃ t, r = .ok t ∧ s = .drafted (d.toBlueprint id t))
    (Obeys.always (Obeys.ask fun t _ => ⟨_, .draft, t, rfl, rfl⟩)) ?_ (by rintro s e ⟨t, ⟨⟩, -⟩)
  rintro s t ⟨_, ⟨⟩, rfl⟩
  exact save_drafted_obeys _ _ rfl

theorem patch_obeys_record (id : Uuid) (p : Patch) :
    (patch id p).program.Obeys ((patch id p).record replies) .start fun s r =>
      ∀ v, r = .ok v → s = .written := by
  change (Service.patch id p).run.Obeys _ _ _
  unfold Service.patch
  refine Obeys.andThen (Q := fun s r => ∀ b, r = .ok b → s = .read b)
    (Service.get_obeys (fun b hb => ?_) fun reply => ?_) ?_ ?_
  · refine ⟨_, .read hb, ?_⟩
    rintro _ ⟨⟩
    rfl
  · exact ⟨_, .other rfl, by rintro e - v ⟨⟩⟩
  · rintro s b hs
    obtain rfl := hs b rfl
    split
    · exact Obeys.throw (by rintro v ⟨⟩)
    · refine Obeys.andThen (Q := fun s r => ∃ t, r = .ok t ∧ s = .drafted (p.apply b t))
        (Obeys.always (Obeys.ask fun t _ => ⟨_, .change, t, rfl, rfl⟩)) ?_
        (by rintro s e ⟨t, ⟨⟩, -⟩)
      rintro s t ⟨_, ⟨⟩, rfl⟩
      exact save_drafted_obeys _ _ rfl
  · rintro s e - v ⟨⟩

theorem delete_obeys_record (id : Uuid) :
    (delete id).program.Obeys ((delete id).record replies) .start fun s r =>
      ∀ v, r = .ok v → s = .written := by
  change (Service.delete id).run.Obeys _ _ _
  unfold Service.delete
  refine Obeys.andThen (Q := fun s r => r = .ok true → s = .written)
    (Obeys.store (Obeys.ask fun reply _ => ?_)) ?_ ?_
  · match reply with
    | .ok true => exact ⟨_, .delete, fun _ => rfl⟩
    | .ok false => exact ⟨_, .absent (by simp), by rintro ⟨⟩⟩
    | .error e => exact ⟨_, .absent (by simp), by rintro ⟨⟩⟩
  · rintro s found hs
    cases found with
    | false => exact Obeys.throw (by rintro v ⟨⟩)
    | true =>
      obtain rfl := hs rfl
      refine (Service.reload_obeys (record_ignores _ _ Call.isWrite_of_isUpkeep)).mono ?_
      rintro s r rfl v -
      rfl
  · rintro s e - v ⟨⟩

/-- Every command obeys its protocol. -/
theorem obeys_record (c : Command) :
    c.program.Obeys (c.record replies) .start c.Recorded := by
  unfold Recorded
  cases c with
  | create d => exact (create_obeys_record d).mono fun s r h _ => h
  | patch id p => exact (patch_obeys_record id p).mono fun s r h _ => h
  | delete id => exact (delete_obeys_record id).mono fun s r h _ => h
  | _ =>
    exact (obeys_of_ignores _ rfl (record_ignores _ _ Call.isWrite_of_isQuiet)
      (record_ignores _ _ Call.isWrite_of_isUpkeep)).mono
        fun _ _ _ hw => absurd hw Bool.false_ne_true

end Command

end Ingestion
