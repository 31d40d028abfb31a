import Mathlib
import Ingestion.Proofs.Schedule.Engine

/-!
# Any sequence of operations on an engine

Jobs are registered and removed, the timer is started and stopped, and what is due is fired, in any
order and for any time, while the clock never goes back.

Two things carry over from one operation to the next. The numbers of the entries ascend, and none of
them is greater than the number given last; so a number that is gone does not come back
(`Engine.gone_of_perform`). And an entry waits for what the last operation that set its instant has
found (`Engine.Run.exists_last_set`): its registration, a start of the stopped timer or its last
firing. All that a table keeps over a run is told by `Engine.Run.table_kept`.
-/

namespace Ingestion

namespace Engine

variable {J : Type}

/-- A call of an engine, or the firing of what is due. -/
inductive Operation (J : Type) where
  | add (expression : String) (job : J)
  | remove (id : Nat)
  | start
  | stop
  | fireDue

/-- The engine after an operation at the instant `now`. A job that is refused changes nothing. -/
def perform (e : Engine J) (now : Instant) : Operation J → Engine J
  | .add expression job =>
    match e.add now expression job with
    | .ok e' => e'
    | .error _ => e
  | .remove id => e.remove id
  | .start => e.start now
  | .stop => e.stop
  | .fireDue => e.fireDue now

/-- The numbers of the entries. -/
def ids (e : Engine J) : List Nat :=
  e.entries.map (·.id)

variable {e : Engine J} {now : Instant} {op : Operation J} {entry : Entry J} {id : Nat}

/-! ## Numbers -/

theorem ids_start (e : Engine J) (now : Instant) : (e.start now).ids = e.ids := by
  unfold start
  split
  · rfl
  · exact List.map_map

theorem ids_fireDue (e : Engine J) (now : Instant) : (e.fireDue now).ids = e.ids := by
  rw [ids, ids, fireDue, List.map_map]
  refine List.map_congr_left fun entry _ => ?_
  rw [Function.comp_apply]
  split <;> rfl

theorem lastId_start (e : Engine J) (now : Instant) : (e.start now).lastId = e.lastId := by
  unfold start
  split <;> rfl

/-- An operation gives the next number to one entry, which comes last, or it gives out none. -/
theorem ids_perform (e : Engine J) (now : Instant) (op : Operation J) :
    (e.perform now op).ids = e.ids ++ [e.lastId + 1] ∧
        (e.perform now op).lastId = e.lastId + 1 ∨
      (e.perform now op).ids.Sublist e.ids ∧ (e.perform now op).lastId = e.lastId := by
  cases op with
  | add expression job =>
    cases hadd : e.add now expression job with
    | error source =>
      rw [perform, hadd]
      exact .inr ⟨List.Sublist.refl _, rfl⟩
    | ok e' =>
      rw [perform, hadd]
      obtain ⟨schedule, next, -, -, rfl⟩ := add_eq_ok_iff.1 hadd
      exact .inl ⟨List.map_append, rfl⟩
  | remove id => exact .inr ⟨List.filter_sublist.map _, rfl⟩
  | start => exact .inr ⟨(ids_start e now).symm ▸ List.Sublist.refl _, lastId_start e now⟩
  | stop => exact .inr ⟨List.Sublist.refl _, rfl⟩
  | fireDue => exact .inr ⟨(ids_fireDue e now).symm ▸ List.Sublist.refl _, rfl⟩

/-- The numbers of the entries ascend, and they have been given out. -/
structure Numbered (e : Engine J) : Prop where
  ascending : e.ids.Pairwise (· < ·)
  id_le : ∀ id ∈ e.ids, id ≤ e.lastId

theorem Numbered.empty : Numbered ({} : Engine J) :=
  ⟨.nil, nofun⟩

theorem numbered_perform (h : e.Numbered) : (e.perform now op).Numbered := by
  rcases e.ids_perform now op with ⟨hids, hlast⟩ | ⟨hids, hlast⟩
  · refine ⟨?_, ?_⟩
    · rw [hids, List.pairwise_append]
      refine ⟨h.ascending, List.pairwise_singleton _ _, fun id hid id' hid' => ?_⟩
      obtain rfl := List.mem_singleton.1 hid'
      exact Nat.lt_succ_of_le (h.id_le id hid)
    · intro id hid
      rw [hids] at hid
      rw [hlast]
      rcases List.mem_append.1 hid with hid | hid
      · exact Nat.le_succ_of_le (h.id_le id hid)
      · exact (List.mem_singleton.1 hid).le
  · refine ⟨h.ascending.sublist hids, fun id hid => ?_⟩
    rw [hlast]
    exact h.id_le id (hids.subset hid)

theorem Numbered.nodup (h : e.Numbered) : e.ids.Nodup :=
  h.ascending.imp fun hlt => hlt.ne

theorem Numbered.eq_of_id_eq (h : e.Numbered) {entry' : Entry J} (hentry : entry ∈ e.entries)
    (hentry' : entry' ∈ e.entries) (hid : entry.id = entry'.id) : entry = entry' :=
  List.inj_on_of_nodup_map h.nodup hentry hentry' hid

/-- A number has been given out, and no entry has it any more. -/
structure Gone (e : Engine J) (id : Nat) : Prop where
  given : id ≤ e.lastId
  not_mem : id ∉ e.ids

theorem gone_of_perform (h : e.Gone id) : (e.perform now op).Gone id := by
  have hgiven := h.given
  rcases e.ids_perform now op with ⟨hids, hlast⟩ | ⟨hids, hlast⟩
  · refine ⟨by omega, ?_⟩
    rw [hids, List.mem_append, List.mem_singleton]
    rintro (hid | rfl)
    · exact h.not_mem hid
    · omega
  · exact ⟨by omega, fun hid => h.not_mem (hids.subset hid)⟩

/-- Removing takes out the entry of the number and leaves the others as they are. -/
theorem Numbered.remove_eq (h : e.Numbered) {before after : List (Entry J)}
    (hentries : e.entries = before ++ entry :: after) :
    e.remove entry.id = { e with entries := before ++ after } := by
  have hnodup := h.nodup
  rw [ids, hentries, List.map_append, List.map_cons, List.nodup_middle, List.nodup_cons,
    ← List.map_append, List.mem_map] at hnodup
  have hother : ∀ other ∈ before ++ after, (other.id != entry.id) = true :=
    fun other hmem => bne_iff_ne.2 fun heq => hnodup.1 ⟨other, hmem, heq⟩
  obtain ⟨hbefore, hafter⟩ := List.forall_mem_append.1 hother
  rw [remove, hentries, List.filter_append, List.filter_cons, List.filter_eq_self.2 hbefore,
    List.filter_eq_self.2 hafter, bne_self_eq_false]
  rfl

theorem remove_eq_self (h : id ∉ e.ids) : e.remove id = e := by
  have hother : ∀ other ∈ e.entries, (other.id != id) = true :=
    fun other hmem => bne_iff_ne.2 fun heq => h (heq ▸ List.mem_map_of_mem hmem)
  rw [remove, List.filter_eq_self.2 hother]

/-! ## What the entries wait for -/

/-- An operation sets the instant that the entry of a number waits for: it registers the entry, it
starts the stopped timer, or it fires the entry. -/
def Sets (e : Engine J) (now : Instant) : Operation J → Nat → Prop
  | .add expression job, id => ∃ e', e.add now expression job = .ok e' ∧ e'.lastId = id
  | .start, id => e.isRunning = false ∧ id ∈ e.ids
  | .fireDue, id => ∃ entry ∈ e.due now, entry.id = id
  | .remove _, _ | .stop, _ => False

/-- Where an entry comes from that an operation leaves: it has been held and the operation has not
set its instant, or the operation has set it to the first one of its schedule after the clock. -/
inductive Origin (e : Engine J) (now : Instant) (op : Operation J) (entry : Entry J) : Prop
  | kept (hheld : entry ∈ e.entries) (hnot : ¬ e.Sets now op entry.id)
  | set (hsets : e.Sets now op entry.id) (hnext : entry.nextFire = entry.schedule.next? now)
    (hread : Cron.read entry.expression = .ok entry.schedule)

/-- The schedules of the entries are those that their expressions are read as. -/
def Legible (e : Engine J) : Prop :=
  ∀ entry ∈ e.entries, Cron.read entry.expression = .ok entry.schedule

theorem origin_perform (h : e.Numbered) (hlegible : e.Legible)
    (hentry : entry ∈ (e.perform now op).entries) : e.Origin now op entry := by
  cases op with
  | add expression job =>
    cases hadd : e.add now expression job with
    | error source =>
      rw [perform, hadd] at hentry
      refine .kept hentry ?_
      rintro ⟨e', hadd', -⟩
      rw [hadd] at hadd'
      cases hadd'
    | ok e' =>
      rw [perform, hadd] at hentry
      obtain ⟨schedule, next, hread, hnext, rfl⟩ := add_eq_ok_iff.1 hadd
      rcases List.mem_append.1 hentry with hold | hnew
      · -- The number of an entry that has been held is not the new one.
        refine .kept hold ?_
        rintro ⟨e', hadd', hid⟩
        rw [hadd] at hadd'
        cases hadd'
        have hle := h.id_le _ (List.mem_map_of_mem hold)
        dsimp only at hid hle
        omega
      · obtain rfl := List.mem_singleton.1 hnew
        exact .set ⟨_, hadd, rfl⟩ hnext.symm hread
  | remove number => exact .kept (mem_remove.1 hentry).1 not_false
  | stop => exact .kept hentry not_false
  | start =>
    cases hrunning : e.isRunning with
    | true =>
      rw [perform, start, if_pos hrunning] at hentry
      refine .kept hentry ?_
      rintro ⟨hstopped, -⟩
      rw [hrunning] at hstopped
      cases hstopped
    | false =>
      rw [perform, start, hrunning] at hentry
      obtain ⟨old, hold, rfl⟩ := List.mem_map.1 hentry
      have hid : old.id ∈ e.ids := List.mem_map_of_mem hold
      exact .set ⟨hrunning, hid⟩ rfl (hlegible old hold)
  | fireDue =>
    rcases mem_fireDue.1 hentry with ⟨hheld, hdue⟩ | ⟨old, hold, rfl⟩
    · refine .kept hheld ?_
      rintro ⟨fired, hfired, hid⟩
      obtain ⟨hmem, hdue'⟩ := mem_due.1 hfired
      rw [h.eq_of_id_eq hmem hheld hid, hdue] at hdue'
      cases hdue'
    · exact .set ⟨old, hold, rfl⟩ rfl (hlegible old (mem_due.1 hold).1)

theorem legible_perform (h : e.Numbered) (hlegible : e.Legible) :
    (e.perform now op).Legible := by
  intro entry hentry
  cases origin_perform h hlegible hentry with
  | kept hheld => exact hlegible entry hheld
  | set _ _ hread => exact hread

/-- After what is due has been fired, and after a start of the stopped timer, no entry waits for an
instant that has passed. -/
theorem later_of_fireDue (hentry : entry ∈ (e.fireDue now).entries) {u : Instant}
    (hu : entry.nextFire = some u) : now < u := by
  rcases mem_fireDue.1 hentry with ⟨-, hdue⟩ | ⟨old, -, rfl⟩
  · by_contra hle
    have hdue' := Entry.isDue_iff.2 ⟨u, hu, Instant.not_lt.1 hle⟩
    rw [hdue] at hdue'
    cases hdue'
  · exact (Cron.Schedule.isNext_of_next? hu).later

theorem later_of_start (hstopped : e.isRunning = false)
    (hentry : entry ∈ (e.start now).entries) {u : Instant} (hu : entry.nextFire = some u) :
    now < u := by
  rw [start, hstopped] at hentry
  obtain ⟨old, -, rfl⟩ := List.mem_map.1 hentry
  exact (Cron.Schedule.isNext_of_next? hu).later

/-! ## Runs -/

/-- What happens to an engine that has no entries at first. The clock shows `clock i` at the
operation `i`, and it never goes back. -/
structure Run (J : Type) where
  clock : Nat → Instant
  operation : Nat → Operation J
  engine : Nat → Engine J
  start : engine 0 = {}
  clock_le : ∀ i, clock i ≤ clock (i + 1)
  performs : ∀ i, engine (i + 1) = (engine i).perform (clock i) (operation i)

namespace Run

/-- The run of the given operations. -/
def ofOperations (clock : Nat → Instant) (operation : Nat → Operation J)
    (clock_le : ∀ i, clock i ≤ clock (i + 1)) : Run J where
  clock := clock
  operation := operation
  engine := Nat.rec {} fun i e => e.perform (clock i) (operation i)
  start := rfl
  clock_le := clock_le
  performs _ := rfl

variable {r : Run J} {i j k : Nat}

theorem clock_mono (hij : i ≤ j) : r.clock i ≤ r.clock j := by
  induction j, hij using Nat.le_induction with
  | base => exact Instant.le_refl _
  | succ j _ ih => exact Instant.le_trans ih (r.clock_le j)

theorem numbered (i : Nat) : (r.engine i).Numbered := by
  induction i with
  | zero =>
    rw [r.start]
    exact .empty
  | succ i ih =>
    rw [r.performs]
    exact numbered_perform ih

theorem legible (i : Nat) : (r.engine i).Legible := by
  induction i with
  | zero =>
    rw [r.start]
    intro entry hentry
    cases hentry
  | succ i ih =>
    rw [r.performs]
    exact legible_perform (numbered i) ih

theorem lastId_mono (hij : i ≤ j) : (r.engine i).lastId ≤ (r.engine j).lastId := by
  induction j, hij using Nat.le_induction with
  | base => exact Nat.le_refl _
  | succ j _ ih =>
    rw [r.performs]
    rcases (r.engine j).ids_perform (r.clock j) (r.operation j) with ⟨-, hlast⟩ | ⟨-, hlast⟩ <;>
      omega

theorem gone_mono (h : (r.engine i).Gone id) (hij : i ≤ j) : (r.engine j).Gone id := by
  induction j, hij using Nat.le_induction with
  | base => exact h
  | succ j _ ih =>
    rw [r.performs]
    exact gone_of_perform ih

/-- An operation sets the instant that the entry of a number waits for. -/
def SetsAt (r : Run J) (k : Nat) (id : Nat) : Prop :=
  (r.engine k).Sets (r.clock k) (r.operation k) id

/-- Some operation is the last one that has set the instant of an entry, and the entry waits for the
first instant of its schedule after the clock of that operation. -/
theorem exists_last_set (hentry : entry ∈ (r.engine i).entries) :
    ∃ k < i, r.SetsAt k entry.id ∧ (∀ j, k < j → j < i → ¬ r.SetsAt j entry.id) ∧
      entry.nextFire = entry.schedule.next? (r.clock k) := by
  induction i with
  | zero =>
    rw [r.start] at hentry
    cases hentry
  | succ i ih =>
    rw [r.performs] at hentry
    cases origin_perform (numbered i) (legible i) hentry with
    | kept hheld hnot =>
      obtain ⟨k, hk, hset, hlast, hnext⟩ := ih hheld
      refine ⟨k, Nat.lt_succ_of_lt hk, hset, fun j hkj hj => ?_, hnext⟩
      rcases Nat.lt_or_eq_of_le (Nat.le_of_lt_succ hj) with hj | rfl
      · exact hlast j hkj hj
      · exact hnot
    | set hset hnext =>
      exact ⟨i, Nat.lt_succ_self i, hset, fun j hij hj => absurd hj (by omega), hnext⟩

/-- Whatever has been done, the numbers of the entries ascend, none is greater than the number given
last, and a number that no entry has any more does not come back. A job is registered with the next
number if its expression can be read and is due again, and else it is refused and nothing changes.
Removing takes out the entry of the number and nothing else. An entry waits for the first instant of
its schedule after the clock of the last operation that has set it, or for none if the search finds
none. After what is due has been fired, and after a start of the stopped timer, no entry waits for
an instant that has passed. -/
theorem table_kept (r : Run J) (i : Nat) :
    ((r.engine i).ids.Pairwise (· < ·) ∧ ∀ id ∈ (r.engine i).ids, id ≤ (r.engine i).lastId) ∧
    (∀ id ∈ (r.engine i).ids, ∀ j ≥ i, id ∉ (r.engine j).ids → ∀ k ≥ j, id ∉ (r.engine k).ids) ∧
    (∀ expression job, r.operation i = .add expression job →
      (∃ schedule next, Cron.read expression = .ok schedule ∧
        schedule.next? (r.clock i) = some next ∧
        r.engine (i + 1) = { r.engine i with
          entries := (r.engine i).entries ++
            [⟨(r.engine i).lastId + 1, expression, schedule, job, some next⟩]
          lastId := (r.engine i).lastId + 1 }) ∨
      (∃ source, (r.engine i).add (r.clock i) expression job = .error source) ∧
        r.engine (i + 1) = r.engine i) ∧
    (∀ id, r.operation i = .remove id →
      (id ∉ (r.engine i).ids → r.engine (i + 1) = r.engine i) ∧
      ∀ before entry after, (r.engine i).entries = before ++ entry :: after → entry.id = id →
        r.engine (i + 1) = { r.engine i with entries := before ++ after }) ∧
    (∀ entry ∈ (r.engine i).entries, Cron.read entry.expression = .ok entry.schedule ∧
      ∃ k < i, (r.SetsAt k entry.id ∧ ∀ j, k < j → j < i → ¬ r.SetsAt j entry.id) ∧
        r.clock k ≤ r.clock i ∧ entry.nextFire = entry.schedule.next? (r.clock k) ∧
        ∀ u, entry.nextFire = some u → entry.schedule.IsNext (r.clock k) u) ∧
    (r.operation i = .fireDue ∨ r.operation i = .start ∧ (r.engine i).isRunning = false →
      ∀ entry ∈ (r.engine (i + 1)).entries, ∀ u, entry.nextFire = some u → r.clock i < u) := by
  have hnumbered := numbered (r := r) i
  have hstep := r.performs i
  refine ⟨⟨hnumbered.ascending, hnumbered.id_le⟩, ?_, ?_, ?_, ?_, ?_⟩
  · intro id hid j hij hnot k hjk
    have hgone : (r.engine j).Gone id :=
      ⟨Nat.le_trans (hnumbered.id_le id hid) (lastId_mono hij), hnot⟩
    exact (gone_mono hgone hjk).not_mem
  · intro expression job hop
    rw [hop, perform] at hstep
    cases hadd : (r.engine i).add (r.clock i) expression job with
    | error source =>
      rw [hadd] at hstep
      exact .inr ⟨⟨source, rfl⟩, hstep⟩
    | ok e' =>
      rw [hadd] at hstep
      obtain ⟨schedule, next, hread, hnext, rfl⟩ := add_eq_ok_iff.1 hadd
      exact .inl ⟨schedule, next, hread, hnext, hstep⟩
  · intro id hop
    rw [hop, perform] at hstep
    constructor
    · intro hid
      rw [hstep, remove_eq_self hid]
    · rintro before entry after hentries rfl
      rw [hstep, hnumbered.remove_eq hentries]
  · intro entry hentry
    obtain ⟨k, hk, hset, hlast, hnext⟩ := exists_last_set hentry
    refine ⟨legible i entry hentry, k, hk, ⟨hset, hlast⟩, clock_mono hk.le, hnext, fun u hu => ?_⟩
    rw [hnext] at hu
    exact Cron.Schedule.isNext_of_next? hu
  · rintro (hop | ⟨hop, hstopped⟩) entry hentry u hu
    · rw [hstep, hop] at hentry
      exact later_of_fireDue hentry hu
    · rw [hstep, hop] at hentry
      exact later_of_start hstopped hentry hu

end Run

/-! ## Two jobs and a refused one -/

namespace Sample

/-- Jobs for every five minutes and for every midnight, and one without an expression that can be
read. The first of them is fired two minutes late and then removed. -/
def errands : Run String :=
  .ofOperations
    (fun
      | 0 | 1 | 2 | 3 => .midnight .epoch
      | _ => .ofSecond .epoch 420 (by decide))
    (fun
      | 0 => .add "*/5 * * * *" "often"
      | 1 => .add "tomorrow" "never"
      | 2 => .add "0 0 * * *" "nightly"
      | 3 => .start
      | 4 => .fireDue
      | 5 => .remove 1
      | _ => .stop)
    (by
      rintro (_ | _ | _ | _ | i)
      · decide
      · decide
      · decide
      · decide
      · exact Instant.le_refl _)

end Sample

theorem Run.errands_kept :
    (Sample.errands.engine 5).entries.map (fun e => (e.id, e.nextFire)) =
        [(1, some (.ofSecond .epoch 600 (by decide))),
          (2, some (.midnight ⟨1970, 1, 2, by decide⟩))] ∧
      (Sample.errands.engine 6).lastId = 2 ∧ ∀ k ≥ 6, 1 ∉ (Sample.errands.engine k).ids := by
  have hheld : 1 ∈ (Sample.errands.engine 5).ids := by decide +kernel
  have hremoved : 1 ∉ (Sample.errands.engine 6).ids := by decide +kernel
  obtain ⟨-, hgone, -⟩ := table_kept Sample.errands 5
  exact ⟨by decide +kernel, by decide +kernel, hgone 1 hheld 6 (by decide) hremoved⟩

end Engine

end Ingestion
