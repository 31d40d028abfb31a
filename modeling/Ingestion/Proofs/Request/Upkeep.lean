import Mathlib
import Ingestion.Proofs.Request.Command

/-!
# How a command keeps up the agenda

A command that has changed the store owes a rebuild of the agenda. It pays by holding the agenda,
fetching what is to run by its cron expression, and rebuilding the agenda for exactly that.
`UpkeepStage.Next` tells these steps, and every command obeys it: none writes twice, none writes
while it holds the agenda, none uses the agenda without holding it, and none ends in debt. A store
is reckoned with that answers every query.
-/

namespace Ingestion

/-- What a command owes to the agenda. -/
inductive Debt where
  | unwritten
  /-- The command has written, and has not rebuilt the agenda since. -/
  | due
  | paid
  /-- The rebuild after the write was refused. -/
  | failed
deriving DecidableEq

/-- The debt after a rebuild. -/
def Debt.rebuilt (d : Debt) (succeeds : Bool) : Debt :=
  match d with
  | .due => if succeeds then .paid else .failed
  | d => d

theorem Debt.rebuilt_eq_unwritten_iff {d : Debt} {succeeds : Bool} :
    d.rebuilt succeeds = .unwritten ↔ d = .unwritten := by
  cases d <;> cases succeeds <;> simp [rebuilt]

theorem Debt.rebuilt_eq_paid_iff {d : Debt} {succeeds : Bool} :
    d.rebuilt succeeds = .paid ↔ d = .paid ∨ d = .due ∧ succeeds = true := by
  cases d <;> cases succeeds <;> simp [rebuilt]

/-- How far a command has come with the agenda. -/
inductive UpkeepStage where
  | away (d : Debt)
  | holding (d : Debt)
  /-- The agenda is held, and the blueprints to rebuild it for have been fetched. -/
  | fetched (d : Debt) (bs : List Blueprint)

namespace UpkeepStage

/-- What is owed at a stage. -/
def debt : UpkeepStage → Debt
  | away d | holding d | fetched d _ => d

/-- Whether the agenda is held at a stage. -/
def holds : UpkeepStage → Bool
  | away _ => false
  | holding _ | fetched _ _ => true

/-- The calls with which a command keeps up the agenda. -/
inductive Next : UpkeepStage → (c : Call) → c.Reply → UpkeepStage → Prop
  | save {b : Blueprint} : Next (away .unwritten) (.saveBlueprint b) (.ok ()) (away .due)
  | refuse {b : Blueprint} {e : StoreError} :
      Next (away .unwritten) (.saveBlueprint b) (.error e) (away .unwritten)
  | delete {id : Uuid} : Next (away .unwritten) (.deleteBlueprint id) (.ok true) (away .due)
  | absent {id : Uuid} {reply : (Call.deleteBlueprint id).Reply} (h : reply ≠ .ok true) :
      Next (away .unwritten) (.deleteBlueprint id) reply (away .unwritten)
  | lock {d : Debt} : Next (away d) .lockAgenda () (holding d)
  | fetch {d : Debt} {bs : List Blueprint} {n : Int64} :
      Next (holding d) (.findBlueprints .schedulable) (.ok (bs, n)) (fetched d bs)
  | rebuild {d : Debt} {bs : List Blueprint} {reply : (Call.rebuildAgenda bs).Reply} :
      Next (fetched d bs) (.rebuildAgenda bs) reply (holding (d.rebuilt reply.isOk))
  | list {d : Debt} {reply : Call.listAgenda.Reply} : Next (holding d) .listAgenda reply (holding d)
  | stop {d : Debt} : Next (holding d) .stopAgenda () (holding d)
  | unlock {d : Debt} : Next (holding d) .unlockAgenda () (away d)
  | other {d : Debt} {c : Call} {reply : c.Reply} (h : c.isQuiet = true) :
      Next (away d) c reply (away d)

end UpkeepStage

/-- The replies of a store that answers every query. -/
def Call.Answered : (c : Call) → c.Reply → Prop
  | .findBlueprints _, reply => ∃ r, reply = .ok r
  | _, _ => True

/-- The protocol of a command that keeps up the agenda. -/
def upkeep : Protocol UpkeepStage where
  Replies := Call.Answered
  Next := UpkeepStage.Next

/-- A command can end at this stage: without holding the agenda, without debts, and, if it is one
that writes and succeeds, after a write of its own and a successful rebuild. -/
structure UpkeepStage.Settled (s : UpkeepStage) (writes succeeds : Bool) : Prop where
  away : s.holds = false
  not_due : s.debt ≠ .due
  paid : writes = true → succeeds = true → s.debt = .paid

open Program (Obeys)

theorem upkeep_ignores (d : Debt) : upkeep.Ignores (.away d) Call.isQuiet :=
  fun _ h _ => .other h

/-! ## The service -/

namespace Service

theorem holdingAgenda_obeys_upkeep {α : Type} {p : Program α} {d : Debt} (post : Debt → α → Prop)
    (hp : p.Obeys upkeep (.holding d) fun s a => ∃ d, s = .holding d ∧ post d a) :
    (holdingAgenda p).Obeys upkeep (.away d) fun s a => ∃ d, s = .away d ∧ post d a := by
  unfold holdingAgenda
  refine Obeys.bind (Q := fun s _ => s = .holding d)
    (Obeys.ask fun _ _ => ⟨_, .lock, rfl⟩) ?_
  rintro _ _ rfl
  refine hp.bind ?_
  rintro _ a ⟨d, rfl, ha⟩
  refine Obeys.bind (Q := fun s _ => s = .away d) (Obeys.ask fun _ _ => ⟨_, .unlock, rfl⟩) ?_
  rintro _ _ rfl
  exact Obeys.done ⟨d, rfl, ha⟩

theorem reconcile_obeys_upkeep (d : Debt) :
    reconcile.run.Obeys upkeep (.away d) fun s r => ∃ d', s = .away d' ∧ d' = d.rebuilt r.isOk := by
  unfold reconcile
  refine holdingAgenda_obeys_upkeep _ ?_
  refine Obeys.bind (Q := fun s r => ∃ bs n, r = .ok (bs, n) ∧ s = .fetched d bs)
    (Obeys.ask ?_) ?_
  · rintro _ ⟨⟨bs, n⟩, rfl⟩
    exact ⟨_, .fetch, bs, n, rfl, rfl⟩
  · rintro _ _ ⟨bs, n, rfl, rfl⟩
    exact Obeys.ask fun reply _ => ⟨_, .rebuild, _, rfl, rfl⟩

theorem reload_obeys_upkeep (d : Debt) :
    reload.run.Obeys upkeep (.away d) fun s r => ∃ d', s = .away d' ∧ d' = d.rebuilt r.isOk := by
  unfold reload
  refine (reconcile_obeys_upkeep d).bind ?_
  rintro _ (e | n) ⟨d', rfl, hd'⟩
  · exact Obeys.done ⟨d', rfl, hd'⟩
  · exact Obeys.done ⟨d', rfl, hd'⟩

end Service

/-! ## The commands -/

/-- A rebuild settles a command that has written. -/
theorem Debt.settled_rebuilt (writes succeeds : Bool) :
    (UpkeepStage.away (Debt.due.rebuilt succeeds)).Settled writes succeeds := by
  constructor <;> cases succeeds <;> simp [UpkeepStage.holds, UpkeepStage.debt, Debt.rebuilt]

/-- A command that fails before it has written owes nothing. -/
theorem Debt.settled_unwritten (writes : Bool) :
    (UpkeepStage.away .unwritten).Settled writes false := by
  constructor <;> simp [UpkeepStage.holds, UpkeepStage.debt]

namespace Command

/-- A validated blueprint is stored, and the agenda rebuilt. -/
theorem save_validated_obeys_upkeep (b : Blueprint) :
    (do
      let b ← b.validated
      Service.save b
      Service.reload
      return b : Request Blueprint).run.Obeys upkeep (.away .unwritten) fun s r =>
        s.Settled true r.isOk := by
  refine Obeys.andThen (b.validated_obeys (upkeep_ignores _).lookups) ?_ ?_
  · rintro s b' ⟨rfl, -⟩
    refine Obeys.andThen
      (Q := fun s r => s = .away (if r.isOk then .due else .unwritten))
      (Service.save_obeys (fun _ => ⟨_, .save, rfl⟩) fun e =>
        ⟨_, .refuse, (upkeep_ignores _).lookups, fun _ _ => rfl⟩) ?_ ?_
    · rintro s u rfl
      refine Obeys.andThen (Service.reload_obeys_upkeep _) ?_ ?_
      · rintro s u ⟨d, rfl, rfl⟩
        exact Obeys.pure (Debt.settled_rebuilt true true)
      · rintro s e ⟨d, rfl, rfl⟩
        exact Debt.settled_rebuilt true false
    · rintro s e rfl
      exact Debt.settled_unwritten true
  · rintro s e ⟨rfl, -⟩
    exact Debt.settled_unwritten true

theorem create_obeys_upkeep (d : Draft) :
    (create d).program.Obeys upkeep (.away .unwritten) fun s r => s.Settled true r.isOk := by
  change (Service.create d).run.Obeys _ _ _
  unfold Service.create
  refine Obeys.andThen (Q := fun s r => s = .away .unwritten ∧ r.isOk = true)
    (Obeys.always (Obeys.ask fun id _ => ⟨_, .other rfl, rfl, rfl⟩)) ?_ (by rintro s e ⟨-, ⟨⟩⟩)
  rintro s id ⟨rfl, -⟩
  refine Obeys.andThen (Q := fun s r => s = .away .unwritten ∧ r.isOk = true)
    (Obeys.always (Obeys.ask fun t _ => ⟨_, .other rfl, rfl, rfl⟩)) ?_ (by rintro s e ⟨-, ⟨⟩⟩)
  rintro s t ⟨rfl, -⟩
  exact save_validated_obeys_upkeep _

theorem patch_obeys_upkeep (id : Uuid) (p : Patch) :
    (patch id p).program.Obeys upkeep (.away .unwritten) fun s r => s.Settled true r.isOk := by
  change (Service.patch id p).run.Obeys _ _ _
  unfold Service.patch
  refine Obeys.andThen (Q := fun s _ => s = .away .unwritten)
    (Service.get_obeys (fun b _ => ⟨_, .other rfl, rfl⟩) fun reply =>
      ⟨_, .other rfl, fun _ _ => rfl⟩) ?_ ?_
  · rintro s b rfl
    split
    · exact Obeys.throw (Debt.settled_unwritten true)
    · refine Obeys.andThen (Q := fun s r => s = .away .unwritten ∧ r.isOk = true)
        (Obeys.always (Obeys.ask fun t _ => ⟨_, .other rfl, rfl, rfl⟩)) ?_
        (by rintro s e ⟨-, ⟨⟩⟩)
      rintro s t ⟨rfl, -⟩
      exact save_validated_obeys_upkeep _
  · rintro s e rfl
    exact Debt.settled_unwritten true

theorem delete_obeys_upkeep (id : Uuid) :
    (delete id).program.Obeys upkeep (.away .unwritten) fun s r => s.Settled true r.isOk := by
  change (Service.delete id).run.Obeys _ _ _
  unfold Service.delete
  refine Obeys.andThen
    (Q := fun s r => s = .away (if r.toOption = some true then .due else .unwritten))
    (Obeys.store (Obeys.ask fun reply _ => ?_)) ?_ ?_
  · -- A reply that there was no such blueprint tells that nothing has been written.
    match reply with
    | .ok true => exact ⟨_, .delete, rfl⟩
    | .ok false => exact ⟨_, .absent (by simp), rfl⟩
    | .error e => exact ⟨_, .absent (by simp), rfl⟩
  · rintro s found rfl
    cases found with
    | false => exact Obeys.throw (Debt.settled_unwritten true)
    | true =>
      refine (Service.reload_obeys_upkeep _).mono ?_
      rintro s r ⟨d, rfl, rfl⟩
      exact Debt.settled_rebuilt true _
  · rintro s e rfl
    exact Debt.settled_unwritten true

/-- Every command obeys the protocol. -/
theorem obeys_upkeep (c : Command) :
    c.program.Obeys upkeep (.away .unwritten) fun s r => s.Settled c.writes r.isOk := by
  have hquiet : ∀ (d : Debt) (succeeds : Bool), d = .unwritten →
      (UpkeepStage.away d).Settled false succeeds := by
    rintro d succeeds rfl
    constructor <;> simp [UpkeepStage.holds, UpkeepStage.debt]
  cases c with
  | create d => exact create_obeys_upkeep d
  | patch id p => exact patch_obeys_upkeep id p
  | delete id => exact delete_obeys_upkeep id
  | reload =>
    refine (Service.reload_obeys_upkeep .unwritten).mono ?_
    rintro s r ⟨d, rfl, rfl⟩
    exact hquiet _ _ rfl
  | schedule =>
    refine Obeys.always ((Service.holdingAgenda_obeys_upkeep (fun d _ => d = .unwritten)
      (Obeys.ask fun _ _ => ⟨_, .list, _, rfl, rfl⟩)).mono ?_)
    rintro s r ⟨d, rfl, rfl⟩
    exact hquiet _ _ rfl
  | shutdown =>
    refine Obeys.always ((Service.holdingAgenda_obeys_upkeep (fun d _ => d = .unwritten)
      (Obeys.ask fun _ _ => ⟨_, .stop, _, rfl, rfl⟩)).mono ?_)
    rintro s r ⟨d, rfl, rfl⟩
    exact hquiet _ _ rfl
  | _ =>
    refine (quiet_obeys _ rfl (upkeep_ignores _)).mono ?_
    rintro s r rfl
    exact hquiet _ _ rfl

end Command

end Ingestion
