import Mathlib
import Ingestion.Proofs.Request.Command
import Ingestion.Proofs.Schedule.Rebuild
import Ingestion.Proofs.Store.Listing

/-!
# Reconciling the agenda

An agenda is reconciled with the blueprints that a store replies, whatever these are. Whatever the
replies, the readings of the clock and the stops have been before, there are three outcomes
(`Agenda.Reachable.reconcile_outcome`). If the store fails, nothing has changed. If the engine
accepts all that the store is to run, the agenda registers exactly that. Otherwise the first
blueprint that is refused is reported, and the agenda is left empty and stopped. The agenda of
before counts in the last number that it has given to an entry, and in nothing else.
-/

namespace Ingestion

/-! ## The order in which blueprints are scheduled -/

namespace Memory

/-- Every blueprint that is enabled and not manual is scheduled, each of them once. -/
theorem scheduled_perm (m : Memory) :
    m.scheduled.Perm (m.blueprints.values.filter fun b => b.enable && !b.isManual) :=
  List.mergeSort_perm _ _

/-- The newest blueprint is scheduled first. -/
theorem scheduled_sorted (m : Memory) : m.scheduled.Pairwise Precedes :=
  mergeSort_listedBefore_sorted _

end Memory

namespace Agenda

/-! ## Requests on the agenda -/

/-- The reply to a call on the agenda, and what the call makes of the agenda. The store replies
`fetch` to a query, and the clock is read in a rebuild. There are no other calls on the agenda. -/
def respond (fetch : Query → Except StoreError (List Blueprint × Int64)) (clock : Nat → Instant)
    (a : Agenda) : (c : Call) → Option (c.Reply × Agenda)
  | .findBlueprints q => some (fetch q, a)
  | .lockAgenda => some ((), a)
  | .unlockAgenda => some ((), a)
  | .rebuildAgenda bs => some (a.rebuild { clock } bs)
  | .listAgenda => some (a.list, a)
  | .stopAgenda => some ((), a.stop)
  | _ => none

/-- Carries out a request on the agenda. -/
def conduct {α : Type} (fetch : Query → Except StoreError (List Blueprint × Int64))
    (clock : Nat → Instant) (p : Program α) : StateT Agenda Option α :=
  p.run (m := StateT Agenda Option) fun c a => a.respond fetch clock c

variable {fetch : Query → Except StoreError (List Blueprint × Int64)} {clock : Nat → Instant}

theorem conduct_reconcile (a : Agenda) :
    conduct fetch clock Service.reconcile.run a =
      match fetch .schedulable with
      | .error e => some (.error (.store e), a)
      | .ok (bs, _) => some (a.rebuild { clock } bs) := by
  obtain ⟨next, hreconcile, herror, hok⟩ := Service.reconcile_calls
  have hfetch : conduct fetch clock Service.reconcile.run a =
      conduct fetch clock (next (fetch .schedulable)) a := by
    rw [hreconcile]
    rfl
  rw [hfetch]
  cases fetch .schedulable with
  | error e =>
    rw [herror]
    rfl
  | ok found =>
    rw [hok]
    rfl

theorem conduct_shutdown (a : Agenda) :
    conduct fetch clock Service.shutdown a = some ((), a.stop) :=
  rfl

/-- The agendas that come about when an empty one is reconciled again and again, whatever the store
replies, stopped, and run by its timer. -/
inductive Reachable : Agenda → Prop where
  | empty : Reachable {}
  | reconcile {a a' : Agenda} {result : Except RequestError Nat}
      (fetch : Query → Except StoreError (List Blueprint × Int64)) (clock : Nat → Instant)
      (ha : Reachable a) (h : conduct fetch clock Service.reconcile.run a = some (result, a')) :
      Reachable a'
  | shutdown {a a' : Agenda}
      (fetch : Query → Except StoreError (List Blueprint × Int64)) (clock : Nat → Instant)
      (ha : Reachable a) (h : conduct fetch clock Service.shutdown a = some ((), a')) :
      Reachable a'
  | wake {a : Agenda} (now : Instant) (ha : Reachable a) : Reachable (a.wake now).2

theorem Reachable.consistent {a : Agenda} (h : a.Reachable) : a.Consistent := by
  induction h with
  | empty => exact consistent_empty
  | reconcile fetch clock _ h ih =>
    rw [conduct_reconcile] at h
    split at h
    · cases h
      exact ih
    · next bs n hfetch =>
      obtain ⟨-, rfl⟩ := Prod.mk.inj (Option.some.inj h)
      exact rebuild_consistent _ bs ih
  | shutdown fetch clock _ h ih =>
    rw [conduct_shutdown] at h
    cases h
    exact stop_consistent ih
  | wake now _ ih => exact wake_consistent ih now

theorem Reachable.rebuild {a : Agenda} (h : a.Reachable) (clock : Nat → Instant)
    (bs : List Blueprint) : (a.rebuild { clock } bs).2.Reachable :=
  .reconcile (fun _ => .ok (bs, 0)) clock h (conduct_reconcile a)

/-! ## What is registered -/

/-- The agenda has one entry for each of the blueprints and no other ones, all under different
numbers, and its timer runs if there are any. An entry has the expression of its blueprint, runs the
blueprint itself, and is owned by it. -/
structure Registers (a : Agenda) (bs : List Blueprint) : Prop where
  jobs : a.engine.entries.map (·.job) = bs
  expressions : a.engine.entries.map (·.expression) = bs.map (·.cronConfig)
  numbers : (a.engine.entries.map (·.id)).Nodup
  owners : a.owners.toList = a.engine.entries.map fun e => (e.id, e.job.id)
  running : a.engine.isRunning = true ↔ 0 < bs.length

theorem Consistent.numbers_nodup {a : Agenda} (h : a.Consistent) :
    (a.engine.entries.map (·.id)).Nodup := by
  rw [← h.keys]
  exact a.owners.keys_nodup

theorem Consistent.registers {a : Agenda} (h : a.Consistent)
    (hrunning : a.engine.isRunning = !a.jobs.isEmpty) : a.Registers a.jobs where
  jobs := rfl
  expressions := h.shows.expressions
  numbers := h.numbers_nodup
  owners := h.owners
  running := by
    rw [hrunning, List.length_pos_iff]
    simp

/-- A rebuild takes over nothing from the agenda of before but the last number given. -/
theorem Consistent.rebuild_congr {a a₂ : Agenda} (h : a.Consistent) (h₂ : a₂.Consistent)
    (hlast : a₂.engine.lastId = a.engine.lastId) (s : Surroundings) (bs : List Blueprint) :
    a₂.rebuild s bs = a.rebuild s bs := by
  simp only [rebuild, h.clear, h₂.clear, Engine.stop, hlast]

/-- After a rebuild the agenda registers the given blueprints, or the first one that is refused is
reported and the agenda is empty and stopped. -/
theorem Consistent.rebuild_cases {a : Agenda} (h : a.Consistent) (s : Surroundings)
    (bs : List Blueprint) :
    ((a.rebuild s bs).1 = .ok bs.length ∧ (a.rebuild s bs).2.Registers bs ∧
        ∀ i b, bs[i]? = some b → s.fault? i b = none) ∨
      ∃ i b source, bs[i]? = some b ∧ s.fault? i b = some source ∧
        (∀ j < i, ∀ b', bs[j]? = some b' → s.fault? j b' = none) ∧
        (a.rebuild s bs).1 = .error (.schedule b.id source) ∧ (a.rebuild s bs).2.Cleared := by
  have houtcome := rebuild_outcome s bs h
  split at houtcome
  · next hnone =>
    obtain ⟨hresult, hconsistent, hjobs, hrunning⟩ := houtcome
    have hregisters := hconsistent.registers (by rw [hjobs, hrunning])
    rw [hjobs] at hregisters
    refine .inl ⟨hresult, hregisters, ?_⟩
    intro i b hb
    have haccepted := fault?_of_refused? hnone hb
    rwa [Nat.zero_add] at haccepted
  · next b source hrefused =>
    obtain ⟨hresult, hcleared⟩ := houtcome
    obtain ⟨i, hi, hsource, hbefore⟩ := first_of_refused? hrefused
    simp only [Nat.zero_add] at hsource hbefore
    exact .inr ⟨i, b, source, hi, hsource, hbefore, hresult, hcleared⟩

end Agenda

/-! ## A record with a broken expression -/

namespace Sample

/-- A blueprint that is to run at midnight. -/
def midnight : Blueprint where
  id := .ofNat 1
  name := "midnight"
  mode := .advanced
  projectName := ""
  cronConfig := "0 0 * * *"
  isManual := false
  enable := true
  connections := []
  labels := []
  syncPolicy := {}
  beforePlan := .nil
  afterPlan := .nil
  plan := .single { plugin := "gitlab" }
  createdAt := .midnight .epoch
  updatedAt := .midnight .epoch

/-- A blueprint whose cron expression cannot be read. -/
def broken : Blueprint :=
  { midnight with id := .ofNat 2, cronConfig := "tomorrow" }

/-- The agenda after it has been reconciled with the first blueprint alone. -/
def registered : Agenda :=
  (({} : Agenda).rebuild { clock := fun _ => .midnight .epoch } [midnight]).2

/-- A store that holds the second blueprint alone. -/
def brokenStore : Memory :=
  { blueprints := Table.empty.insert broken.id broken }

end Sample

namespace Agenda

/-- In every state that an agenda comes to, and for every content of the store, reconciling has one
of three outcomes. A failure of the store is reported, and nothing has changed. If the engine
accepts every blueprint that is enabled and not manual, their number is returned, and the agenda
registers them. Otherwise the first one that is refused is reported, in the order in which they are
scheduled, and the agenda is empty and stopped. Two agendas that have given out the same numbers
come to the same outcome. -/
theorem Reachable.reconcile_outcome {a : Agenda} (h : a.Reachable) (clock : Nat → Instant)
    (m : Memory) :
    (∀ e, conduct (fun _ => .error e) clock Service.reconcile.run a =
      some (.error (.store e), a)) ∧
    (m.scheduled.Perm (m.blueprints.values.filter fun b => b.enable && !b.isManual) ∧
      m.scheduled.Pairwise Memory.Precedes) ∧
    ∃ result a',
      (∀ a₂ : Agenda, a₂.Reachable → a₂.engine.lastId = a.engine.lastId →
        conduct (fun q => .ok (m.findBlueprints q)) clock Service.reconcile.run a₂ =
          some (result, a')) ∧
      ((result = .ok m.scheduled.length ∧ a'.Registers m.scheduled ∧
          ∀ i (b : Blueprint), m.scheduled[i]? = some b → b.cronFault? (clock i) = none) ∨
        ∃ i, ∃ b : Blueprint, ∃ source, m.scheduled[i]? = some b ∧
          b.cronFault? (clock i) = some source ∧
          (∀ j < i, ∀ b' : Blueprint, m.scheduled[j]? = some b' →
            b'.cronFault? (clock j) = none) ∧
          result = .error (.schedule b.id source) ∧ a'.Cleared) := by
  have hcases := h.consistent.rebuild_cases { clock } m.scheduled
  have hfault (i : Nat) (b : Blueprint) :
      Surroundings.fault? { clock } i b = b.cronFault? (clock i) :=
    Surroundings.fault?_eq_cronFault? rfl b
  simp only [hfault] at hcases
  refine ⟨?_, ⟨m.scheduled_perm, m.scheduled_sorted⟩, _, _, ?_, hcases⟩
  · intro e
    rw [conduct_reconcile]
  · intro a₂ h₂ hlast
    rw [conduct_reconcile, Memory.findBlueprints_schedulable]
    exact congrArg some (h.consistent.rebuild_congr h₂.consistent hlast { clock } m.scheduled)

theorem registered_refused : Sample.registered.owners.values = [Sample.midnight.id] ∧
    ∃ source a', conduct (fun q => .ok (Sample.brokenStore.findBlueprints q))
        (fun _ => .midnight .epoch) Service.reconcile.run Sample.registered =
      some (.error (.schedule Sample.broken.id source), a') ∧ a'.Cleared := by
  refine ⟨by decide +kernel, ?_⟩
  have hreachable : Sample.registered.Reachable := Reachable.empty.rebuild _ _
  obtain ⟨-, -, result, a', hconduct, houtcome⟩ :=
    hreachable.reconcile_outcome (fun _ => .midnight .epoch) Sample.brokenStore
  have hscheduled : Sample.brokenStore.scheduled = [Sample.broken] :=
    List.mergeSort_singleton Sample.broken
  have hbroken : (Sample.broken.cronFault? (.midnight .epoch)).isSome = true := by
    decide +kernel
  rw [hscheduled] at houtcome
  rcases houtcome with ⟨-, -, haccepted⟩ | ⟨i, b, source, hb, -, -, rfl, hcleared⟩
  · rw [haccepted 0 Sample.broken rfl] at hbroken
    cases hbroken
  · obtain rfl := List.mem_singleton.1 (List.mem_of_getElem? hb)
    exact ⟨source, a', hconduct _ hreachable rfl, hcleared⟩

end Agenda

end Ingestion
