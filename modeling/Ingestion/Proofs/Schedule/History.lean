import Mathlib
import Ingestion.Proofs.Schedule.Engine
import Ingestion.Proofs.Schedule.Reconcile

/-!
# Histories of an agenda

An agenda starts out empty, and then it is reconciled, shut down and run by its timer, in any order
and for any time, while the clock never goes back. Every rebuild throws the entries away and makes
new ones, with new readings of the clock.

The law that connects the entries of before with those of after is one about thresholds: once all
entries that are held wait for an instant after some `limit` in the past, so do all entries that are
ever held later (`History.later_of_later`), because a new search starts at the clock. A tick of the
timer brings all entries past the clock. So no blueprint is run twice for the same instant
(`History.fired_once`).
-/

namespace Ingestion

/-! ## The blueprints of a store -/

namespace Memory

/-- No two blueprints that are scheduled have the same identifier. -/
theorem Keyed.scheduled_nodup {m : Memory} (h : m.Keyed) :
    (m.scheduled.map (·.id)).Nodup :=
  (m.scheduled_perm.map _).nodup_iff.2 (h.filter_nodup _)

end Memory

namespace Agenda

variable {a a' : Agenda} {s : Surroundings} {e : Entry Blueprint}

/-! ## The entries of a rebuild -/

theorem entries_add {index : Nat} {b : Blueprint} (h : a.add s index b = .ok a') :
    ∃ schedule next, Cron.read b.cronConfig = .ok schedule ∧
      a'.engine.entries = a.engine.entries ++
        [⟨a.engine.lastId + 1, b.cronConfig, schedule, b, some next⟩] := by
  unfold Agenda.add at h
  split at h
  · cases h
  · cases hadd : a.engine.add (s.clock index) b.cronConfig b with
    | error source =>
      rw [hadd] at h
      cases h
    | ok engine =>
      rw [hadd] at h
      cases h
      obtain ⟨schedule, next, hread, -, rfl⟩ := Engine.add_eq_ok_iff.1 hadd
      exact ⟨schedule, next, hread, rfl⟩

/-- Adding all blueprints ends in no entries, or the timer has been started and all entries wait
from the reading of that start on. -/
theorem addAll_waits {bs : List Blueprint} {index : Nat} (ha : a.Consistent)
    (hstopped : a.engine.isRunning = false) (hempty : index = 0 → a.engine.entries = [])
    (hread : ∀ e ∈ a.engine.entries, Cron.read e.expression = .ok e.schedule)
    (he : e ∈ (addAll s index bs a).2.engine.entries) :
    Cron.read e.expression = .ok e.schedule ∧
      e.nextFire = e.schedule.next? (s.clock (index + bs.length)) := by
  induction bs generalizing index a with
  | nil =>
    by_cases hindex : index = 0
    · have hnone : (addAll s index [] a).2.engine.entries = [] := by
        rw [addAll, if_pos hindex]
        exact hempty hindex
      rw [hnone] at he
      cases he
    · have hstart : (addAll s index [] a).2.engine.entries =
          a.engine.entries.map (·.reschedule (s.clock index)) := by
        rw [addAll, if_neg hindex, Engine.start, hstopped]
        rfl
      rw [hstart] at he
      obtain ⟨old, hold, rfl⟩ := List.mem_map.1 he
      exact ⟨hread old hold, rfl⟩
  | cons b rest ih =>
    cases hadd : a.add s index b with
    | error source =>
      have hnone : (addAll s index (b :: rest) a).2.engine.entries = [] := by
        simp only [addAll, hadd, ha.clear]
      rw [hnone] at he
      cases he
    | ok a' =>
      obtain ⟨hconsistent, -, hrunning, -⟩ := add_consistent ha hadd
      obtain ⟨schedule, next, hschedule, hentries⟩ := entries_add hadd
      have hrest : addAll s index (b :: rest) a = addAll s (index + 1) rest a' := by
        simp only [addAll, hadd]
      rw [hrest] at he
      have hlength : index + (b :: rest).length = index + 1 + rest.length := by
        simp only [List.length_cons]
        omega
      rw [hlength]
      refine ih hconsistent (hrunning.trans hstopped) (fun h => absurd h (by omega)) ?_ he
      intro old hold
      rw [hentries] at hold
      rcases List.mem_append.1 hold with hold | hold
      · exact hread old hold
      · obtain rfl := List.mem_singleton.1 hold
        exact hschedule

/-- After a rebuild all entries wait from the last of its readings on, the one of the start. -/
theorem rebuild_waits {bs : List Blueprint} (ha : a.Consistent)
    (he : e ∈ (a.rebuild s bs).2.engine.entries) :
    Cron.read e.expression = .ok e.schedule ∧
      e.nextFire = e.schedule.next? (s.clock bs.length) := by
  have hcleared : a.clear.engine.entries = [] := by
    rw [ha.clear]
  have hconsistent : Consistent { a.clear with engine := a.clear.engine.stop } := by
    rw [ha.clear]
    exact Cleared.consistent ⟨rfl, rfl, rfl⟩
  have hwaits : Cron.read e.expression = .ok e.schedule ∧
      e.nextFire = e.schedule.next? (s.clock (0 + bs.length)) :=
    addAll_waits hconsistent rfl (fun _ => hcleared) (by simp [Engine.stop, hcleared]) he
  rwa [Nat.zero_add] at hwaits

/-! ## Histories -/

/-- Something that happens to an agenda. -/
inductive Event where
  /-- The agenda is reconciled with what the store replies. The clock is read during the rebuild. -/
  | reconcile (fetch : Query → Except StoreError (List Blueprint × Int64))
      (readings : Nat → Instant)
  | shutdown
  /-- The timer sees the clock. -/
  | tick

namespace Event

/-- An event can happen between two readings of the clock. A store that does not fail holds every
blueprint under its own identifier, and the clock does not go back during a rebuild. -/
def Possible (now later : Instant) : Event → Prop
  | .reconcile fetch readings =>
    ((∃ e, fetch = fun _ => .error e) ∨
        ∃ m : Memory, m.Keyed ∧ fetch = fun q => .ok (m.findBlueprints q)) ∧
      now ≤ readings 0 ∧ (∀ n, readings n ≤ readings (n + 1)) ∧ ∀ n, readings n ≤ later
  | .shutdown => True
  | .tick => True

/-- All readings of a rebuild lie between the clock of before and the clock of after. -/
theorem Possible.readings {now later : Instant}
    {fetch : Query → Except StoreError (List Blueprint × Int64)} {readings : Nat → Instant}
    (h : (Event.reconcile fetch readings).Possible now later) (n : Nat) :
    now ≤ readings n ∧ readings n ≤ later := by
  obtain ⟨-, hfirst, hmono, hlast⟩ := h
  refine ⟨?_, hlast n⟩
  induction n with
  | zero => exact hfirst
  | succ n ih => exact Instant.le_trans ih (hmono n)

/-- The agenda after an event that happens at the instant `now`. -/
def outcome (now : Instant) (a : Agenda) : Event → Option Agenda
  | .reconcile fetch readings => (conduct fetch readings Service.reconcile.run a).map (·.2)
  | .shutdown => (conduct (fun _ => .ok ([], 0)) (fun _ => now) Service.shutdown a).map (·.2)
  | .tick => some (a.wake now).2

theorem outcome_reconcile (now : Instant) (a : Agenda)
    (fetch : Query → Except StoreError (List Blueprint × Int64)) (readings : Nat → Instant) :
    (Event.reconcile fetch readings).outcome now a =
      match fetch .schedulable with
      | .error _ => some a
      | .ok (bs, _) => some (a.rebuild { clock := readings } bs).2 := by
  rw [outcome, conduct_reconcile]
  cases fetch .schedulable with
  | error e => rfl
  | ok found => rfl

theorem outcome_shutdown (now : Instant) (a : Agenda) :
    Event.shutdown.outcome now a = some a.stop :=
  rfl

theorem outcome_tick (now : Instant) (a : Agenda) :
    Event.tick.outcome now a = some (a.wake now).2 :=
  rfl

theorem exists_outcome (now : Instant) (a : Agenda) (event : Event) :
    ∃ a', event.outcome now a = some a' := by
  cases event with
  | reconcile fetch readings =>
    rw [outcome_reconcile]
    cases fetch .schedulable with
    | error e => exact ⟨a, rfl⟩
    | ok found => exact ⟨_, rfl⟩
  | shutdown => exact ⟨a.stop, rfl⟩
  | tick => exact ⟨_, rfl⟩

end Event

/-- What happens to an agenda that is empty at first. The clock shows `clock i` when the event `i`
happens, and it never goes back. -/
structure History where
  clock : Nat → Instant
  event : Nat → Event
  agenda : Nat → Agenda
  start : agenda 0 = {}
  clock_le : ∀ i, clock i ≤ clock (i + 1)
  possible : ∀ i, (event i).Possible (clock i) (clock (i + 1))
  happens : ∀ i, (event i).outcome (clock i) (agenda i) = some (agenda (i + 1))

namespace History

/-- The history of the given events. -/
def ofEvents (clock : Nat → Instant) (event : Nat → Event)
    (clock_le : ∀ i, clock i ≤ clock (i + 1))
    (possible : ∀ i, (event i).Possible (clock i) (clock (i + 1))) : History where
  clock := clock
  event := event
  agenda := Nat.rec {} fun i a => ((event i).outcome (clock i) a).getD a
  start := rfl
  clock_le := clock_le
  possible := possible
  happens i := by
    obtain ⟨a', ha'⟩ := Event.exists_outcome (clock i)
      (Nat.rec {} (fun i a => ((event i).outcome (clock i) a).getD a) i) (event i)
    rw [ha']
    show some a' = some (Option.getD _ _)
    rw [ha', Option.getD_some]

variable (h : History)

/-- The entries that the timer fires at a moment. -/
def fired (i : Nat) : List (Entry Blueprint) :=
  match h.event i with
  | .tick => ((h.agenda i).engine.wake (h.clock i)).1
  | _ => []

variable {h} {i j : Nat} {e e' : Entry Blueprint} {u : Instant}

theorem clock_mono (hij : i ≤ j) : h.clock i ≤ h.clock j := by
  induction j, hij using Nat.le_induction with
  | base => exact Instant.le_refl _
  | succ j _ ih => exact Instant.le_trans ih (h.clock_le j)

theorem agenda_tick (htick : h.event i = .tick) :
    h.agenda (i + 1) = ((h.agenda i).wake (h.clock i)).2 := by
  have houtcome := h.happens i
  rw [htick, Event.outcome_tick] at houtcome
  exact (Option.some.inj houtcome).symm

theorem agenda_shutdown (hshutdown : h.event i = .shutdown) :
    h.agenda (i + 1) = (h.agenda i).stop := by
  have houtcome := h.happens i
  rw [hshutdown, Event.outcome_shutdown] at houtcome
  exact (Option.some.inj houtcome).symm

theorem agenda_reconcile {fetch : Query → Except StoreError (List Blueprint × Int64)}
    {readings : Nat → Instant} (hreconcile : h.event i = .reconcile fetch readings) :
    h.agenda (i + 1) =
      match fetch .schedulable with
      | .error _ => h.agenda i
      | .ok (bs, _) => ((h.agenda i).rebuild { clock := readings } bs).2 := by
  have houtcome := h.happens i
  rw [hreconcile, Event.outcome_reconcile] at houtcome
  cases hfetch : fetch .schedulable with
  | error e =>
    rw [hfetch] at houtcome
    exact (Option.some.inj houtcome).symm
  | ok found =>
    rw [hfetch] at houtcome
    exact (Option.some.inj houtcome).symm

/-- An agenda that is reconciled with a store is rebuilt for what is scheduled there. -/
theorem agenda_reconcile_memory {m : Memory} {readings : Nat → Instant}
    (hreconcile : h.event i = .reconcile (fun q => .ok (m.findBlueprints q)) readings) :
    h.agenda (i + 1) = ((h.agenda i).rebuild { clock := readings } m.scheduled).2 := by
  rw [agenda_reconcile hreconcile, Memory.findBlueprints_schedulable]

theorem reachable (i : Nat) : (h.agenda i).Reachable := by
  induction i with
  | zero =>
    rw [h.start]
    exact .empty
  | succ i ih =>
    cases hevent : h.event i with
    | reconcile fetch readings =>
      have houtcome := h.happens i
      rw [hevent] at houtcome
      obtain ⟨⟨result, a'⟩, hconduct, rfl⟩ := Option.map_eq_some_iff.1 houtcome
      exact .reconcile fetch readings ih hconduct
    | shutdown =>
      rw [agenda_shutdown hevent]
      exact .shutdown (fun _ => .ok ([], 0)) (fun _ => h.clock i) ih (conduct_shutdown _)
    | tick =>
      rw [agenda_tick hevent]
      exact .wake (h.clock i) ih

/-- Just the entries that are due are fired, and only by a timer that runs. -/
theorem mem_fired : e ∈ h.fired i ↔ h.event i = .tick ∧
    (h.agenda i).engine.isRunning = true ∧ e ∈ (h.agenda i).engine.entries ∧
    e.isDue (h.clock i) = true := by
  unfold fired
  split
  · next htick =>
    cases hrunning : (h.agenda i).engine.isRunning with
    | false => simp [Engine.wake_of_stopped hrunning]
    | true => simp [Engine.wake_of_running hrunning, Engine.mem_due, htick]
  · next htick =>
    simp only [List.not_mem_nil, false_iff, not_and]
    intro h'
    exact absurd h' htick

end History

end Agenda

/-! ## A late tick and a late rebuild -/

namespace Sample

/-- A store that holds the blueprint of every midnight alone. -/
def midnightStore : Memory :=
  { blueprints := Table.empty.insert midnight.id midnight }

theorem midnightStore_scheduled : midnightStore.scheduled = [midnight] :=
  List.mergeSort_singleton midnight

theorem midnightStore_keyed : midnightStore.Keyed :=
  Memory.keyed_empty.insert midnight

/-- Noon of the 4th of January 1970. -/
def noon : Instant :=
  .ofSecond ⟨1970, 1, 4, by decide⟩ 43200 (by decide)

/-- The midnight that follows. -/
def nextMidnight : Instant :=
  .midnight ⟨1970, 1, 5, by decide⟩

/-- A timer that sees the clock for the first time after three midnights, and a rebuild that reads
the clock at the very instant at which the next midnight has come. -/
def late : Agenda.History :=
  .ofEvents
    (fun
      | 0 => .midnight .epoch
      | 1 => noon
      | 2 => noon
      | _ => nextMidnight)
    (fun
      | 0 => .reconcile (fun q => .ok (midnightStore.findBlueprints q)) fun _ => .midnight .epoch
      | 1 => .tick
      | 2 => .reconcile (fun q => .ok (midnightStore.findBlueprints q)) fun _ => nextMidnight
      | _ => .shutdown)
    (by
      rintro (_ | _ | _ | i)
      · decide
      · decide
      · decide
      · exact Instant.le_refl nextMidnight)
    (by
      rintro (_ | _ | _ | i)
      · exact ⟨.inr ⟨_, midnightStore_keyed, rfl⟩, Instant.le_refl _, fun _ => Instant.le_refl _,
          fun _ => (by decide : Instant.midnight .epoch ≤ noon)⟩
      · trivial
      · exact ⟨.inr ⟨_, midnightStore_keyed, rfl⟩, by decide, fun _ => Instant.le_refl _,
          fun _ => Instant.le_refl _⟩
      · trivial)

theorem late_agenda_one : late.agenda 1 = registered := by
  rw [Agenda.History.agenda_reconcile_memory (h := late) (i := 0) rfl, midnightStore_scheduled,
    late.start]
  rfl

end Sample

namespace Agenda

namespace History

variable {h : History} {i j : Nat} {e e' : Entry Blueprint} {u : Instant}

/-! ## What a step makes of the entries -/

/-- Where an entry of the next moment comes from: it has been held and was not fired, or it has been
held and was fired, or a rebuild has made it. -/
inductive Origin (h : History) (i : Nat) (e' : Entry Blueprint) : Prop where
  | kept (hheld : e' ∈ (h.agenda i).engine.entries) (hnot : e' ∉ h.fired i)
  | fired (e : Entry Blueprint) (hfired : e ∈ h.fired i) (heq : e' = e.reschedule (h.clock i))
  | rebuilt (reading : Instant) (hle : h.clock i ≤ reading) (hle' : reading ≤ h.clock (i + 1))
      (hread : Cron.read e'.expression = .ok e'.schedule)
      (hnext : e'.nextFire = e'.schedule.next? reading)

theorem origin (he' : e' ∈ (h.agenda (i + 1)).engine.entries) : h.Origin i e' := by
  cases hevent : h.event i with
  | reconcile fetch readings =>
    have hpossible := h.possible i
    have hagenda := agenda_reconcile hevent
    rw [hevent] at hpossible
    cases hfetch : fetch .schedulable with
    | error e =>
      rw [hfetch] at hagenda
      rw [hagenda] at he'
      refine .kept he' ?_
      rw [mem_fired, hevent]
      rintro ⟨htick, -⟩
      cases htick
    | ok found =>
      obtain ⟨bs, n⟩ := found
      rw [hfetch] at hagenda
      rw [hagenda] at he'
      obtain ⟨hread, hnext⟩ := rebuild_waits (h.reachable i).consistent he'
      obtain ⟨hle, hle'⟩ := hpossible.readings bs.length
      exact .rebuilt (readings bs.length) hle hle' hread hnext
  | shutdown =>
    rw [agenda_shutdown hevent] at he'
    refine .kept he' ?_
    rw [mem_fired, hevent]
    rintro ⟨htick, -⟩
    cases htick
  | tick =>
    rw [agenda_tick hevent, wake_snd] at he'
    cases hrunning : (h.agenda i).engine.isRunning with
    | false =>
      rw [Engine.wake_of_stopped hrunning] at he'
      refine .kept he' ?_
      rw [mem_fired, hrunning]
      rintro ⟨-, hrunning', -⟩
      cases hrunning'
    | true =>
      rw [Engine.wake_of_running hrunning] at he'
      rcases Engine.mem_fireDue.1 he' with ⟨hheld, hdue⟩ | ⟨old, hold, rfl⟩
      · refine .kept hheld ?_
        rw [mem_fired, hdue]
        rintro ⟨-, -, -, hdue'⟩
        cases hdue'
      · obtain ⟨hheld, hdue⟩ := Engine.mem_due.1 hold
        exact .fired old (mem_fired.2 ⟨hevent, hrunning, hheld, hdue⟩) rfl

/-! ## What a whole history keeps -/

/-- All entries wait from some reading of the clock on that has been made. -/
theorem waits (he : e ∈ (h.agenda i).engine.entries) : e.Waits (h.clock i) := by
  induction i generalizing e with
  | zero =>
    rw [h.start] at he
    cases he
  | succ i ih =>
    cases origin he with
    | kept hheld => exact (ih hheld).mono (h.clock_le i)
    | fired old hfired heq =>
      rw [heq]
      obtain ⟨-, -, hheld, -⟩ := mem_fired.1 hfired
      exact ((ih hheld).reschedule (h.clock i)).mono (h.clock_le i)
    | rebuilt reading _ hle' hread hnext => exact ⟨hread, reading, hle', hnext⟩

/-- Once all entries of a blueprint wait for an instant after a limit in the past, all entries that
are held for it later do. -/
theorem later_of_later {limit : Instant} {id : Uuid} (hlimit : limit ≤ h.clock i)
    (hlater : ∀ e ∈ (h.agenda i).engine.entries, e.job.id = id →
      ∀ u, e.nextFire = some u → limit < u) (hij : i ≤ j) :
    ∀ e ∈ (h.agenda j).engine.entries, e.job.id = id →
      ∀ u, e.nextFire = some u → limit < u := by
  induction j, hij using Nat.le_induction with
  | base => exact hlater
  | succ j hij ih =>
    intro e' he' hid u hu
    have hclock : limit ≤ h.clock j := Instant.le_trans hlimit (clock_mono hij)
    cases origin he' with
    | kept hheld => exact ih e' hheld hid u hu
    | fired old hfired heq =>
      rw [heq] at hu
      exact Instant.lt_of_le_of_lt hclock (Cron.Schedule.isNext_of_next? hu).later
    | rebuilt reading hle _ _ hnext =>
      rw [hnext] at hu
      exact Instant.lt_of_le_of_lt (Instant.le_trans hclock hle)
        (Cron.Schedule.isNext_of_next? hu).later

/-- After the timer has fired something, all entries that are held later wait for instants that
still were to come then. -/
theorem later_of_fired (he : e ∈ h.fired i) (hij : i < j)
    (he' : e' ∈ (h.agenda j).engine.entries) (hu : e'.nextFire = some u) : h.clock i < u := by
  obtain ⟨htick, hrunning, -⟩ := mem_fired.1 he
  refine later_of_later (i := i + 1) (h.clock_le i) ?_ hij e' he' rfl u hu
  intro e'' he'' _ v hv
  cases origin he'' with
  | kept hheld hnot =>
    rw [mem_fired] at hnot
    by_contra hle
    refine hnot ⟨htick, hrunning, hheld, ?_⟩
    rw [Entry.isDue_iff]
    exact ⟨v, hv, Instant.not_lt.1 hle⟩
  | fired old hfired heq =>
    rw [heq] at hv
    exact (Cron.Schedule.isNext_of_next? hv).later
  | rebuilt reading hle _ _ hnext =>
    rw [hnext] at hv
    exact Instant.lt_of_le_of_lt hle (Cron.Schedule.isNext_of_next? hv).later

/-- What the agenda runs at the next moment: what it runs now, or what is scheduled in a store that
keeps blueprints under their own identifiers, or nothing. -/
theorem jobs_succ (i : Nat) : (h.agenda (i + 1)).jobs = (h.agenda i).jobs ∨
    (∃ m : Memory, m.Keyed ∧ (h.agenda (i + 1)).jobs = m.scheduled) ∨
    (h.agenda (i + 1)).jobs = [] := by
  cases hevent : h.event i with
  | reconcile fetch readings =>
    have hpossible := h.possible i
    rw [hevent] at hpossible
    obtain ⟨⟨e, rfl⟩ | ⟨m, hkeyed, rfl⟩, -⟩ := hpossible
    · rw [agenda_reconcile hevent]
      exact .inl rfl
    · rw [agenda_reconcile_memory hevent]
      rcases (h.reachable i).consistent.rebuild_cases { clock := readings } m.scheduled with
        ⟨-, hregisters, -⟩ | ⟨-, -, -, -, -, -, -, hcleared⟩
      · exact .inr (.inl ⟨m, hkeyed, hregisters.jobs⟩)
      · refine .inr (.inr ?_)
        rw [jobs, hcleared.entries]
        rfl
  | shutdown =>
    rw [agenda_shutdown hevent]
    exact .inl rfl
  | tick =>
    rw [agenda_tick hevent]
    have hshows := (h.reachable i).consistent.shows
    exact .inl (hshows.wake (h.clock i)).jobs

/-- At any moment a blueprint has at most one entry. -/
theorem ids_nodup (i : Nat) : ((h.agenda i).engine.entries.map (·.job.id)).Nodup := by
  have hjobs : (h.agenda i).engine.entries.map (·.job.id) = (h.agenda i).jobs.map (·.id) := by
    rw [jobs, List.map_map]
    rfl
  rw [hjobs]
  clear hjobs
  induction i with
  | zero =>
    rw [h.start]
    exact List.nodup_nil
  | succ i ih =>
    rcases jobs_succ i with hjobs | ⟨m, hkeyed, hjobs⟩ | hjobs
    · rw [hjobs]
      exact ih
    · rw [hjobs]
      exact hkeyed.scheduled_nodup
    · rw [hjobs]
      exact List.nodup_nil

theorem eq_of_id_eq (he : e ∈ (h.agenda i).engine.entries)
    (he' : e' ∈ (h.agenda i).engine.entries) (hid : e.job.id = e'.job.id) : e = e' :=
  List.inj_on_of_nodup_map (ids_nodup i) he he' hid

/-- No entry is fired twice at one moment. -/
theorem fired_nodup (i : Nat) : (h.fired i).Nodup := by
  unfold fired
  split
  · have hentries : (h.agenda i).engine.entries.Nodup := (ids_nodup i).of_map _
    cases hrunning : (h.agenda i).engine.isRunning with
    | false =>
      rw [Engine.wake_of_stopped hrunning]
      exact List.nodup_nil
    | true =>
      rw [Engine.wake_of_running hrunning]
      exact hentries.filter _
  · exact List.nodup_nil

/-- What is fired at different ticks is fired for different instants. -/
theorem fired_ne_of_lt (hij : i < j) (he : e ∈ h.fired i) (he' : e' ∈ h.fired j) :
    e.nextFire ≠ e'.nextFire := by
  intro hnext
  obtain ⟨-, -, -, hdue⟩ := mem_fired.1 he
  obtain ⟨-, -, hheld', -⟩ := mem_fired.1 he'
  obtain ⟨u, hu, hle⟩ := Entry.isDue_iff.1 hdue
  have hlater : h.clock i < u := later_of_fired he hij hheld' (hnext ▸ hu)
  exact absurd hle (Instant.not_le.2 hlater)

/-- A blueprint is run once at most for an instant. -/
theorem fired_unique (he : e ∈ h.fired i) (he' : e' ∈ h.fired j) (hid : e.job.id = e'.job.id)
    (hnext : e.nextFire = e'.nextFire) : i = j ∧ e = e' := by
  rcases Nat.lt_trichotomy i j with hij | rfl | hij
  · exact absurd hnext (fired_ne_of_lt hij he he')
  · obtain ⟨-, -, hheld, -⟩ := mem_fired.1 he
    obtain ⟨-, -, hheld', -⟩ := mem_fired.1 he'
    exact ⟨rfl, eq_of_id_eq hheld hheld' hid⟩
  · exact absurd hnext.symm (fired_ne_of_lt hij he' he)

/-- In every history a blueprint has at most one entry at any moment, and no blueprint is run twice
for the same instant. After a blueprint has been run, all entries that are ever held for it wait for
instants after the clock of that run. So two runs of it are for different instants, and the later
one is for an instant that the earlier one did not see. A tick of a running timer fires each entry
that is due once, for an instant of the schedule that its expression is read as, and however many
instants of the schedule have passed: no entry that is held later waits for one of them. -/
theorem fired_once (h : History) :
    (∀ i, ((h.agenda i).engine.entries.map (·.job.id)).Nodup) ∧
    (∀ i j e e' u, i < j → e ∈ h.fired i → e' ∈ (h.agenda j).engine.entries →
      e'.job.id = e.job.id → e'.nextFire = some u → h.clock i < u) ∧
    (∀ i j e e', e ∈ h.fired i → e' ∈ h.fired j → e.job.id = e'.job.id →
      e.nextFire = e'.nextFire → i = j ∧ e = e') ∧
    ∀ i, h.event i = .tick → (h.agenda i).engine.isRunning = true →
      (h.fired i).Nodup ∧
      (∀ e, e ∈ h.fired i ↔ e ∈ (h.agenda i).engine.entries ∧
        ∃ u ≤ h.clock i, e.nextFire = some u) ∧
      ∀ e ∈ h.fired i, Cron.read e.expression = .ok e.schedule ∧
        (∃ u ≤ h.clock i, e.nextFire = some u ∧ e.schedule.Matches u) ∧
        ∀ v ≤ h.clock i, ∀ j > i, ∀ e' ∈ (h.agenda j).engine.entries,
          e'.job.id = e.job.id → e'.nextFire ≠ some v := by
  refine ⟨ids_nodup, ?_, ?_, ?_⟩
  · intro i j e e' u hij he he' _ hu
    exact later_of_fired he hij he' hu
  · intro i j e e' he he' hid hnext
    exact fired_unique he he' hid hnext
  · intro i htick hrunning
    refine ⟨fired_nodup i, ?_, ?_⟩
    · intro e
      rw [mem_fired, Entry.isDue_iff]
      constructor
      · rintro ⟨-, -, hheld, u, hu, hle⟩
        exact ⟨hheld, u, hle, hu⟩
      · rintro ⟨hheld, u, hle, hu⟩
        exact ⟨htick, hrunning, hheld, u, hu, hle⟩
    · intro e he
      obtain ⟨-, -, hheld, hdue⟩ := mem_fired.1 he
      obtain ⟨u, hu, hle⟩ := Entry.isDue_iff.1 hdue
      refine ⟨(waits hheld).read, ⟨u, hle, hu, (waits hheld).due hu⟩, ?_⟩
      intro v hv j hij e' he' _ hv'
      exact absurd hv (Instant.not_le.2 (later_of_fired he hij he' hv'))

theorem late_fired_once :
    (Sample.late.fired 1).map (fun e => (e.job.id, e.nextFire)) =
        [(Sample.midnight.id, some (.midnight ⟨1970, 1, 2, by decide⟩))] ∧
      ∀ j > 1, ∀ e ∈ (Sample.late.agenda j).engine.entries, e.job.id = Sample.midnight.id →
        ∀ u, e.nextFire = some u → Sample.noon < u := by
  have hfired : (Sample.late.fired 1).map (fun e => (e.job.id, e.nextFire)) =
      [(Sample.midnight.id, some (.midnight ⟨1970, 1, 2, by decide⟩))] := by
    change (((Sample.late.agenda 1).engine.wake Sample.noon).1.map
      fun e => (e.job.id, e.nextFire)) = _
    rw [Sample.late_agenda_one]
    decide +kernel
  refine ⟨hfired, ?_⟩
  obtain ⟨-, hlater, -, -⟩ := fired_once Sample.late
  obtain ⟨e, he, hpair⟩ := List.mem_map.1 (hfired ▸ List.mem_singleton_self _)
  intro j hj e' he' hid u hu
  refine hlater 1 j e e' u hj he he' ?_ hu
  rw [hid]
  exact (congrArg Prod.fst hpair).symm

end History

end Agenda

end Ingestion
