import Mathlib
import Ingestion.Proofs.Concurrent.Steps
import Ingestion.Proofs.Request.Upkeep
import Ingestion.Proofs.Schedule.Rebuild

/-!
# How fresh the agenda is

Requests write without holding the agenda, and their rebuilds may overtake each other. Still, the
agenda never shows less than what a successful request has written: it shows what the store was to
run at some moment after the write, unless a later rebuild met an expression that is refused, which
leaves the agenda empty and stopped.

The invariant that carries this (`Run.Upkept`) follows the protocol of upkeep. The last rebuild was
for what the store held at a moment `f`. Every write is older than `f`, or its request still owes a
rebuild; and what a request has fetched while it holds the agenda is as young as its own write, and
no older than `f`.
-/

namespace Ingestion

namespace Run

variable {registry : Registry} (r : Run registry)

/-! ## Rebuilds -/

/-- At the moment `x` a rebuild fails, because the expression of a blueprint is refused. -/
def Rejects (x : Nat) : Prop :=
  ∃ k bs b now source, b ∈ bs ∧ b.cronFault? now = some source ∧
    r.Exchanges x k (.rebuildAgenda bs) (.error (.schedule b.id source))

/-- The agenda is not rebuilt from the moment `x` on, before the moment `i`. -/
def NoRebuild (x i : Nat) : Prop :=
  ∀ y, x ≤ y → y < i → ∀ k bs result, ¬ r.Exchanges y k (.rebuildAgenda bs) result

/-- The last rebuild before the moment `i` happens at `x` and is for what the store held at `f`.
The agenda shows just that, or the rebuild failed and the agenda is empty and stopped. -/
structure Rebuilt (i f x : Nat) : Prop where
  fetch_lt : f < x
  lt : x < i
  last : r.NoRebuild (x + 1) i
  outcome : (∃ k n, r.Exchanges x k (.rebuildAgenda (r.memory f).scheduled) (.ok n) ∧
      (r.agenda i).Shows (r.memory f).scheduled) ∨
    (r.Rejects x ∧ (r.agenda i).Cleared)

/-- The agenda was last rebuilt for what the store held at `f`, or it has never been rebuilt, in
which case `f` is the beginning. -/
def UpToDate (i f : Nat) : Prop :=
  (r.NoRebuild 0 i ∧ f = 0 ∧ (r.agenda i).Cleared) ∨ ∃ x, r.Rebuilt i f x

variable {r}

theorem NoRebuild.succ {x i : Nat} (h : r.NoRebuild x i)
    (hi : ∀ k bs result, ¬ r.Exchanges i k (.rebuildAgenda bs) result) :
    r.NoRebuild x (i + 1) := by
  intro y hxy hyi
  rcases Nat.lt_succ_iff_lt_or_eq.1 hyi with hyi | rfl
  · exact h y hxy hyi
  · exact hi

theorem Exchanges.rebuild {i k : Nat} {bs : List Blueprint} {result : Except RequestError Nat}
    (h : r.Exchanges i k (.rebuildAgenda bs) result) : ∃ readings : Nat → Instant,
      ((r.agenda i).rebuild { clock := readings } bs) = (result, r.agenda (i + 1)) := by
  obtain ⟨chance, hanswer⟩ := h.exists_answer
  refine ⟨chance.readings, ?_⟩
  simp only [Shared.answer, Option.some.injEq, Prod.mk.injEq] at hanswer
  exact Prod.ext hanswer.1 (congrArg Shared.agenda hanswer.2)

/-- A step that does not rebuild the agenda stops the timer or wakes it at most. -/
theorem agenda_step (i : Nat) (h : ∀ k bs result, ¬ r.Exchanges i k (.rebuildAgenda bs) result) :
    r.agenda (i + 1) = r.agenda i ∨ r.agenda (i + 1) = (r.agenda i).stop ∨
      ∃ now, r.agenda (i + 1) = ((r.agenda i).wake now).2 := by
  rcases r.step_cases i with ⟨k, c, reply, he⟩ | he
  · by_cases hstop : c = .stopAgenda
    · subst hstop
      obtain ⟨chance, hanswer⟩ := he.exists_answer
      simp only [Shared.answer, Option.some.injEq, Prod.mk.injEq] at hanswer
      exact .inr (.inl (congrArg Shared.agenda hanswer.2).symm)
    · refine .inl (he.frame.agenda ?_ hstop)
      rintro bs rfl
      exact h k bs reply he
  · exact he.agenda.imp_right .inr

theorem agenda_consistent (r : Run registry) (i : Nat) : (r.agenda i).Consistent := by
  induction i with
  | zero =>
    rw [agenda, r.initial.agenda]
    exact Agenda.consistent_empty
  | succ i ih =>
    by_cases h : ∃ k bs result, r.Exchanges i k (.rebuildAgenda bs) result
    · obtain ⟨k, bs, result, h⟩ := h
      obtain ⟨readings, hrebuild⟩ := h.rebuild
      have := Agenda.rebuild_consistent { clock := readings } bs ih
      rwa [hrebuild] at this
    · push Not at h
      rcases agenda_step i h with hi | hi | ⟨now, hi⟩
      · rwa [hi]
      · rw [hi]
        exact Agenda.stop_consistent ih
      · rw [hi]
        exact Agenda.wake_consistent ih now

theorem Exchanges.lock {i k : Nat} {reply : Call.lockAgenda.Reply}
    (h : r.Exchanges i k .lockAgenda reply) :
    (r.state i).shared.holder = none ∧ (r.state (i + 1)).shared.holder = some k := by
  obtain ⟨chance, hanswer⟩ := h.exists_answer
  simp only [Shared.answer] at hanswer
  split at hanswer
  · next hfree =>
    simp only [Option.some.injEq, Prod.mk.injEq] at hanswer
    exact ⟨hfree, (congrArg Shared.holder hanswer.2).symm⟩
  · cases hanswer

theorem Exchanges.unlock {i k : Nat} {reply : Call.unlockAgenda.Reply}
    (h : r.Exchanges i k .unlockAgenda reply) : (r.state (i + 1)).shared.holder = none := by
  obtain ⟨chance, hanswer⟩ := h.exists_answer
  simp only [Shared.answer, Option.some.injEq, Prod.mk.injEq] at hanswer
  exact (congrArg Shared.holder hanswer.2).symm

/-- A rebuild for what the store held at `f` makes the agenda show it, or is refused. -/
theorem Exchanges.rebuilt {i k f : Nat} {result : Except RequestError Nat} (hf : f < i)
    (h : r.Exchanges i k (.rebuildAgenda (r.memory f).scheduled) result) :
    r.Rebuilt (i + 1) f i := by
  obtain ⟨readings, hrebuild⟩ := h.rebuild
  have houtcome := Agenda.rebuild_outcome { clock := readings } (r.memory f).scheduled
    (r.agenda_consistent i)
  rw [hrebuild] at houtcome
  refine ⟨hf, Nat.lt_succ_self i, fun y hy hyi => absurd hyi (by omega), ?_⟩
  split at houtcome
  · obtain ⟨rfl, hconsistent, hjobs, -⟩ := houtcome
    exact .inl ⟨k, _, h, hjobs ▸ hconsistent.shows⟩
  · next b source hrefused =>
    obtain ⟨rfl, hcleared⟩ := houtcome
    obtain ⟨hmem, j, hfault⟩ := Agenda.mem_of_refused? hrefused
    exact .inr ⟨⟨k, _, b, readings j, source, hmem, hfault, h⟩, hcleared⟩

theorem UpToDate.succ {i f : Nat} (h : r.UpToDate i f)
    (hi : ∀ k bs result, ¬ r.Exchanges i k (.rebuildAgenda bs) result) : r.UpToDate (i + 1) f := by
  have hshows {bs : List Blueprint} (h : (r.agenda i).Shows bs) :
      (r.agenda (i + 1)).Shows bs := by
    rcases agenda_step i hi with hi | hi | ⟨now, hi⟩ <;> rw [hi]
    exacts [h, h.stop, h.wake now]
  have hcleared (h : (r.agenda i).Cleared) : (r.agenda (i + 1)).Cleared := by
    rcases agenda_step i hi with hi | hi | ⟨now, hi⟩ <;> rw [hi]
    exacts [h, h.stop, h.wake now]
  rcases h with ⟨hno, rfl, h⟩ | ⟨x, h⟩
  · exact .inl ⟨hno.succ hi, rfl, hcleared h⟩
  · refine .inr ⟨x, h.fetch_lt, Nat.lt_succ_of_lt h.lt, h.last.succ hi, ?_⟩
    rcases h.outcome with ⟨k, n, he, ho⟩ | ⟨hx, ho⟩
    · exact .inl ⟨k, n, he, hshows ho⟩
    · exact .inr ⟨hx, hcleared ho⟩

/-- A store in memory answers every query. -/
theorem Exchanges.answered {i k : Nat} {c : Call} {reply : c.Reply} (h : r.Exchanges i k c reply) :
    c.Answered reply := by
  cases c with
  | findBlueprints q => exact ⟨_, h.findBlueprints_reply⟩
  | _ => trivial

/-! ## The invariant -/

variable (r)

/-- At the moment `i` every request `k` is at the stage `stage k` of its upkeep, and the agenda was
last rebuilt for what the store held at the moment `f`. -/
structure Upkept (i : Nat) (stage : Nat → UpkeepStage) (f : Nat) : Prop where
  obeys : ∀ (k : Nat) (p : Pending), (r.state i).requests[k]? = some p →
    p.rest.Obeys upkeep (stage k) fun s result => s.Settled p.command.writes result.isOk
  absent : ∀ k, (r.state i).requests.length ≤ k → stage k = .away .unwritten
  holder : ∀ k, (stage k).holds = true ↔ (r.state i).shared.holder = some k
  unwritten : ∀ k, (stage k).debt = .unwritten → ∀ w < i, ¬ r.Writes w k
  written : ∀ k, (stage k).debt ≠ .unwritten → ∃ w < i, r.Writes w k
  covered : ∀ k, ∀ w < i, r.Writes w k → (stage k).debt = .due ∨ w < f
  paid : ∀ k, (stage k).debt = .paid → ∃ y < i, ∃ bs n,
    r.Exchanges y k (.rebuildAgenda bs) (.ok n) ∧ ∀ w < i, r.Writes w k → w < y
  fetched : ∀ k d bs, stage k = .fetched d bs → ∃ g, f ≤ g ∧ g < i ∧
    bs = (r.memory g).scheduled ∧ ∀ w < i, r.Writes w k → w < g
  upToDate : r.UpToDate i f

namespace Upkept

variable {r} {i f k : Nat} {stage : Nat → UpkeepStage}

theorem zero : r.Upkept 0 (fun _ => .away .unwritten) 0 where
  obeys k p hp := by
    rw [r.initial.requests] at hp
    cases hp
  absent _ _ := rfl
  holder k := by
    rw [r.initial.holder]
    constructor <;> rintro ⟨⟩
  unwritten _ _ w hw := absurd hw (Nat.not_lt_zero w)
  written _ h := absurd rfl h
  covered _ w hw := absurd hw (Nat.not_lt_zero w)
  paid _ h := by cases h
  fetched _ _ _ h := by cases h
  upToDate := by
    refine .inl ⟨fun y _ hy => absurd hy (Nat.not_lt_zero y), rfl, ?_⟩
    rw [agenda, r.initial.agenda]
    exact ⟨rfl, rfl, rfl⟩

/-- A step without write and rebuild, in which requests get to other stages with the same debts. -/
theorem succ_of_silent (h : r.Upkept i stage f) {stage' : Nat → UpkeepStage}
    (hwrites : ∀ k, ¬ r.Writes i k)
    (hrebuild : ∀ k bs result, ¬ r.Exchanges i k (.rebuildAgenda bs) result)
    (hobeys : ∀ (k : Nat) (p : Pending), (r.state (i + 1)).requests[k]? = some p →
      p.rest.Obeys upkeep (stage' k) fun s result => s.Settled p.command.writes result.isOk)
    (habsent : ∀ k, (r.state (i + 1)).requests.length ≤ k → stage' k = .away .unwritten)
    (hdebt : ∀ k, (stage' k).debt = (stage k).debt)
    (hholder : ∀ k, (stage' k).holds = true ↔ (r.state (i + 1)).shared.holder = some k)
    (hfetched : ∀ k d bs, stage' k = .fetched d bs →
      stage k = .fetched d bs ∨ bs = (r.memory i).scheduled) :
    r.Upkept (i + 1) stage' f := by
  have hold {w k : Nat} (hw : w < i + 1) (hk : r.Writes w k) : w < i := by
    rcases Nat.lt_succ_iff_lt_or_eq.1 hw with hw | rfl
    · exact hw
    · exact absurd hk (hwrites k)
  have hfi : f ≤ i := by
    rcases h.upToDate with ⟨-, rfl, -⟩ | ⟨x, hx⟩
    · exact Nat.zero_le i
    · exact (hx.fetch_lt.trans hx.lt).le
  refine ⟨hobeys, habsent, hholder, ?_, ?_, ?_, ?_, ?_, h.upToDate.succ hrebuild⟩
  · intro k hk w hw hwk
    exact h.unwritten k (hdebt k ▸ hk) w (hold hw hwk) hwk
  · intro k hk
    obtain ⟨w, hw, hwk⟩ := h.written k (hdebt k ▸ hk)
    exact ⟨w, Nat.lt_succ_of_lt hw, hwk⟩
  · intro k w hw hwk
    rw [hdebt k]
    exact h.covered k w (hold hw hwk) hwk
  · intro k hk
    obtain ⟨y, hy, bs, n, he, hwy⟩ := h.paid k (hdebt k ▸ hk)
    exact ⟨y, Nat.lt_succ_of_lt hy, bs, n, he, fun w hw hwk => hwy w (hold hw hwk) hwk⟩
  · intro k d bs hk
    rcases hfetched k d bs hk with hk | rfl
    · obtain ⟨g, hfg, hgi, hbs, hwg⟩ := h.fetched k d bs hk
      exact ⟨g, hfg, Nat.lt_succ_of_lt hgi, hbs, fun w hw hwk => hwg w (hold hw hwk) hwk⟩
    · exact ⟨i, hfi, Nat.lt_succ_self i, rfl, fun w hw hwk => hold hw hwk⟩

/-- The stages after a call of the request `k`. -/
theorem exchange_obeys (h : r.Upkept i stage f) {c : Call} {reply : c.Reply}
    (he : r.Exchanges i k c reply) (hreply : c.Answered reply) :
    ∃ s', UpkeepStage.Next (stage k) c reply s' ∧
      (∀ (k' : Nat) (p : Pending), (r.state (i + 1)).requests[k']? = some p →
        p.rest.Obeys upkeep (Function.update stage k s' k') fun s result =>
          s.Settled p.command.writes result.isOk) ∧
      ∀ k', (r.state (i + 1)).requests.length ≤ k' →
        Function.update stage k s' k' = .away .unwritten := by
  obtain ⟨p, next, hp, hrest, hget⟩ := he.requests_get
  have hobeys := h.obeys k p hp
  rw [hrest] at hobeys
  obtain ⟨s', hnext, hobeys'⟩ := hobeys reply hreply
  refine ⟨s', hnext, ?_, ?_⟩
  · intro k' p' hp'
    rw [hget k'] at hp'
    split at hp'
    · next hk =>
      subst hk
      cases hp'
      rw [Function.update_self]
      exact hobeys'
    · next hk =>
      rw [Function.update_of_ne hk]
      exact h.obeys k' p' hp'
  · intro k' hk'
    have hnone : (r.state (i + 1)).requests[k']? = none := List.getElem?_eq_none hk'
    rw [hget k'] at hnone
    split at hnone
    · cases hnone
    · next hk =>
      rw [Function.update_of_ne hk]
      exact h.absent k' (List.getElem?_eq_none_iff.1 hnone)

/-- If a step leaves the holder of the agenda as it is, the stages go on telling who it is. -/
theorem holder_of_same (h : r.Upkept i stage f) {s' : UpkeepStage}
    (hsame : (r.state (i + 1)).shared.holder = (r.state i).shared.holder)
    (hs' : s'.holds = (stage k).holds) (k' : Nat) :
    (Function.update stage k s' k').holds = true ↔
      (r.state (i + 1)).shared.holder = some k' := by
  rw [hsame, ← h.holder k']
  rcases eq_or_ne k' k with rfl | hk'
  · rw [Function.update_self, hs']
  · rw [Function.update_of_ne hk']

/-- A step in which the request `k` writes. -/
theorem succ_of_write (h : r.Upkept i stage f) (hs : stage k = .away .unwritten)
    (hk : r.Writes i k)
    (hrebuild : ∀ k bs result, ¬ r.Exchanges i k (.rebuildAgenda bs) result)
    (hobeys : ∀ (k' : Nat) (p : Pending), (r.state (i + 1)).requests[k']? = some p →
      p.rest.Obeys upkeep (Function.update stage k (.away .due) k') fun s result =>
        s.Settled p.command.writes result.isOk)
    (habsent : ∀ k', (r.state (i + 1)).requests.length ≤ k' →
      Function.update stage k (.away .due) k' = .away .unwritten)
    (hholder : (r.state (i + 1)).shared.holder = (r.state i).shared.holder) :
    r.Upkept (i + 1) (Function.update stage k (.away .due)) f := by
  have hold {w k' : Nat} (hk' : k' ≠ k) (hw : w < i + 1) (hwk : r.Writes w k') : w < i := by
    rcases Nat.lt_succ_iff_lt_or_eq.1 hw with hw | rfl
    · exact hw
    · exact absurd (hwk.unique hk) hk'
  refine ⟨hobeys, habsent, h.holder_of_same hholder (by rw [hs]; rfl), ?_, ?_, ?_, ?_, ?_,
    h.upToDate.succ hrebuild⟩ <;> intro k' <;> rcases eq_or_ne k' k with rfl | hk'
  all_goals first
    | rw [Function.update_self]
    | rw [Function.update_of_ne hk']
  · rintro ⟨⟩
  · exact fun hd w hw hwk => h.unwritten k' hd w (hold hk' hw hwk) hwk
  · exact fun _ => ⟨i, Nat.lt_succ_self i, hk⟩
  · intro hd
    obtain ⟨w, hw, hwk⟩ := h.written k' hd
    exact ⟨w, Nat.lt_succ_of_lt hw, hwk⟩
  · exact fun _ _ _ => .inl rfl
  · exact fun w hw hwk => h.covered k' w (hold hk' hw hwk) hwk
  · rintro ⟨⟩
  · intro hd
    obtain ⟨y, hy, bs, n, he, hwy⟩ := h.paid k' hd
    exact ⟨y, Nat.lt_succ_of_lt hy, bs, n, he, fun w hw hwk => hwy w (hold hk' hw hwk) hwk⟩
  · rintro d bs ⟨⟩
  · intro d bs hs
    obtain ⟨g, hfg, hgi, hbs, hwg⟩ := h.fetched k' d bs hs
    exact ⟨g, hfg, Nat.lt_succ_of_lt hgi, hbs, fun w hw hwk => hwg w (hold hk' hw hwk) hwk⟩

/-- A step in which the request `k` rebuilds the agenda for what it has fetched. Nobody else holds
the agenda, so nothing that has been fetched gets out of date. -/
theorem succ_of_rebuild (h : r.Upkept i stage f) {d : Debt} {bs : List Blueprint}
    {reply : Except RequestError Nat} (hs : stage k = .fetched d bs)
    (he : r.Exchanges i k (.rebuildAgenda bs) reply)
    (hobeys : ∀ (k' : Nat) (p : Pending), (r.state (i + 1)).requests[k']? = some p →
      p.rest.Obeys upkeep (Function.update stage k (.holding (d.rebuilt reply.isOk)) k')
        fun s result => s.Settled p.command.writes result.isOk)
    (habsent : ∀ k', (r.state (i + 1)).requests.length ≤ k' →
      Function.update stage k (.holding (d.rebuilt reply.isOk)) k' = .away .unwritten) :
    ∃ f', r.Upkept (i + 1) (Function.update stage k (.holding (d.rebuilt reply.isOk))) f' := by
  obtain ⟨g, hfg, hgi, rfl, hwg⟩ := h.fetched k d bs hs
  have hheld : (r.state i).shared.holder = some k := (h.holder k).1 (by rw [hs]; rfl)
  have hsame : (r.state (i + 1)).shared.holder = (r.state i).shared.holder :=
    he.frame.holder (by simp) (by simp)
  have hold {w k' : Nat} (hw : w < i + 1) (hwk : r.Writes w k') : w < i := by
    rcases Nat.lt_succ_iff_lt_or_eq.1 hw with hw | rfl
    · exact hw
    · exact absurd hwk (he.not_writes rfl)
  have hdebt : (stage k).debt = d := by rw [hs]; rfl
  refine ⟨g, hobeys, habsent, h.holder_of_same hsame (by rw [hs]; rfl), ?_, ?_, ?_, ?_, ?_,
    .inr ⟨i, he.rebuilt hgi⟩⟩ <;> intro k' <;> rcases eq_or_ne k' k with rfl | hk'
  all_goals first
    | rw [Function.update_self]
    | rw [Function.update_of_ne hk']
  · intro hd w hw hwk
    have hd' : d = .unwritten := Debt.rebuilt_eq_unwritten_iff.1 hd
    exact h.unwritten k' (hdebt.trans hd') w (hold hw hwk) hwk
  · exact fun hd w hw hwk => h.unwritten k' hd w (hold hw hwk) hwk
  · intro hd
    have hd' : d ≠ .unwritten := by
      rintro rfl
      exact hd rfl
    obtain ⟨w, hw, hwk⟩ := h.written k' (hdebt ▸ hd')
    exact ⟨w, Nat.lt_succ_of_lt hw, hwk⟩
  · intro hd
    obtain ⟨w, hw, hwk⟩ := h.written k' hd
    exact ⟨w, Nat.lt_succ_of_lt hw, hwk⟩
  · -- Whatever the request has written, it had written before it fetched.
    exact fun w hw hwk => .inr (hwg w (hold hw hwk) hwk)
  · intro w hw hwk
    exact (h.covered k' w (hold hw hwk) hwk).imp_right fun hwf => Nat.lt_of_lt_of_le hwf hfg
  · intro hd
    rcases Debt.rebuilt_eq_paid_iff.1 hd with hd | ⟨-, hok⟩
    · obtain ⟨y, hy, bs, n, hey, hwy⟩ := h.paid k' (hdebt.trans hd)
      exact ⟨y, Nat.lt_succ_of_lt hy, bs, n, hey, fun w hw hwk => hwy w (hold hw hwk) hwk⟩
    · obtain ⟨n, rfl⟩ : ∃ n, reply = .ok n := by
        cases reply with
        | ok n => exact ⟨n, rfl⟩
        | error e => cases hok
      exact ⟨i, Nat.lt_succ_self i, _, n, he, fun w hw hwk => hold hw hwk⟩
  · intro hd
    obtain ⟨y, hy, bs, n, he, hwy⟩ := h.paid k' hd
    exact ⟨y, Nat.lt_succ_of_lt hy, bs, n, he, fun w hw hwk => hwy w (hold hw hwk) hwk⟩
  · rintro d bs ⟨⟩
  · -- Another request that has fetched would hold the agenda at the same time.
    intro d' bs' hs'
    have hheld' := (h.holder k').1 (by rw [hs']; rfl)
    exact absurd (Option.some.inj (hheld'.symm.trans hheld)) hk'

/-- A step from outside. -/
theorem succ_of_outside (h : r.Upkept i stage f) (ho : r.Outside i) : r.Upkept (i + 1) stage f := by
  refine h.succ_of_silent ?_ (fun k bs result => ho.silent k _ result) ?_ ?_ (fun _ => rfl) ?_
    fun _ _ _ hs => .inl hs
  · rintro k (⟨b, hw⟩ | ⟨id, hw⟩)
    · exact ho.silent k _ _ hw
    · exact ho.silent k _ _ hw
  · intro k p hp
    rcases ho.requests_get hp with hp | ⟨hk, c, rfl⟩
    · exact h.obeys k p hp
    · rw [h.absent k hk]
      exact c.obeys_upkeep
  · intro k hk
    obtain ⟨cs, hcs⟩ := ho.requests
    refine h.absent k (le_trans ?_ hk)
    rw [hcs, List.length_append]
    exact Nat.le_add_right _ _
  · rw [ho.holder]
    exact h.holder

/-- A call of the request `k` that neither writes nor rebuilds. -/
theorem succ_of_call (h : r.Upkept i stage f) {c : Call} {reply : c.Reply} {s s' : UpkeepStage}
    (he : r.Exchanges i k c reply) (hs : stage k = s)
    (hobeys : ∀ (k' : Nat) (p : Pending), (r.state (i + 1)).requests[k']? = some p →
      p.rest.Obeys upkeep (Function.update stage k s' k') fun s result =>
        s.Settled p.command.writes result.isOk)
    (habsent : ∀ k', (r.state (i + 1)).requests.length ≤ k' →
      Function.update stage k s' k' = .away .unwritten)
    (hwrites : ∀ k, ¬ r.Writes i k) (hrebuild : ∀ bs, c ≠ .rebuildAgenda bs)
    (hdebt : s'.debt = s.debt)
    (hholder : ∀ k', (Function.update stage k s' k').holds = true ↔
      (r.state (i + 1)).shared.holder = some k')
    (hfetched : ∀ d bs, s' = .fetched d bs → bs = (r.memory i).scheduled) :
    ∃ stage' f', r.Upkept (i + 1) stage' f' := by
  refine ⟨_, f, h.succ_of_silent hwrites ?_ hobeys habsent ?_ hholder ?_⟩
  · intro k' bs result h'
    cases (he.unique h').2
    exact hrebuild bs rfl
  all_goals
    intro k'
    rcases eq_or_ne k' k with rfl | hk'
  all_goals first
    | rw [Function.update_self]
    | rw [Function.update_of_ne hk']
  · rw [hdebt, hs]
  · exact fun d bs hs' => .inr (hfetched d bs hs')
  · exact fun d bs hs' => .inl hs'

theorem succ (h : r.Upkept i stage f) : ∃ stage' f', r.Upkept (i + 1) stage' f' := by
  rcases r.step_cases i with ⟨k, c, reply, he⟩ | ho
  · obtain ⟨s', hnext, hobeys, habsent⟩ := h.exchange_obeys he he.answered
    generalize hs : stage k = s at hnext
    -- The holder of the agenda stays the same, except when the agenda is locked or unlocked.
    have hsame (hlock : c ≠ .lockAgenda) (hunlock : c ≠ .unlockAgenda)
        (hs' : s'.holds = s.holds) (k' : Nat) : (Function.update stage k s' k').holds = true ↔
          (r.state (i + 1)).shared.holder = some k' :=
      h.holder_of_same (he.frame.holder hlock hunlock) (hs'.trans (congrArg _ hs.symm)) k'
    cases hnext with
    | save =>
      exact ⟨_, f, h.succ_of_write hs (.inl ⟨_, he⟩) (he.not_rebuilds (by simp)) hobeys habsent
        (he.frame.holder (by simp) (by simp))⟩
    | delete =>
      exact ⟨_, f, h.succ_of_write hs (.inr ⟨_, he⟩) (he.not_rebuilds (by simp)) hobeys habsent
        (he.frame.holder (by simp) (by simp))⟩
    | rebuild => exact ⟨_, h.succ_of_rebuild hs he hobeys habsent⟩
    | refuse =>
      exact h.succ_of_call he hs hobeys habsent
        (fun _ => he.not_writes_of_reply (by simp) (by simp)) (by simp) rfl
        (hsame (by simp) (by simp) rfl) (by rintro d bs ⟨⟩)
    | absent hreply =>
      refine h.succ_of_call he hs hobeys habsent
        (fun _ => he.not_writes_of_reply (by simp) ?_) (by simp) rfl
        (hsame (by simp) (by simp) rfl) (by rintro d bs ⟨⟩)
      rintro id ⟨⟩
      exact hreply rfl
    | lock =>
      obtain ⟨hfree, hheld⟩ := he.lock
      refine h.succ_of_call he hs hobeys habsent (fun _ => he.not_writes rfl) (by simp) rfl
        (fun k' => ?_) (by rintro d bs ⟨⟩)
      rw [hheld]
      rcases eq_or_ne k' k with rfl | hk'
      · rw [Function.update_self]
        exact iff_of_true rfl rfl
      · -- The agenda was free, so no other request is at a stage that holds it.
        rw [Function.update_of_ne hk', h.holder k', hfree]
        exact iff_of_false (by rintro ⟨⟩) fun heq => hk' (Option.some.inj heq).symm
    | fetch =>
      refine h.succ_of_call he hs hobeys habsent (fun _ => he.not_writes rfl) (by simp) rfl
        (hsame (by simp) (by simp) rfl) ?_
      rintro d bs ⟨⟩
      have hreply := he.findBlueprints_reply
      rw [Memory.findBlueprints_schedulable] at hreply
      cases hreply
      rfl
    | list =>
      exact h.succ_of_call he hs hobeys habsent (fun _ => he.not_writes rfl) (by simp) rfl
        (hsame (by simp) (by simp) rfl) (by rintro d bs ⟨⟩)
    | stop =>
      exact h.succ_of_call he hs hobeys habsent (fun _ => he.not_writes rfl) (by simp) rfl
        (hsame (by simp) (by simp) rfl) (by rintro d bs ⟨⟩)
    | unlock =>
      refine h.succ_of_call he hs hobeys habsent (fun _ => he.not_writes rfl) (by simp) rfl
        (fun k' => ?_) (by rintro d bs ⟨⟩)
      rw [he.unlock]
      refine iff_of_false ?_ (by rintro ⟨⟩)
      rcases eq_or_ne k' k with rfl | hk'
      · rw [Function.update_self]
        rintro ⟨⟩
      · -- The request itself held the agenda, so no other one did.
        have hheld := (h.holder k).1 (by rw [hs]; rfl)
        rw [Function.update_of_ne hk', h.holder k', hheld]
        exact fun heq => hk' (Option.some.inj heq).symm
    | other hquiet =>
      have hne {c' : Call} (hc' : c'.isQuiet = false) : c ≠ c' := by
        rintro rfl
        rw [hquiet] at hc'
        cases hc'
      exact h.succ_of_call he hs hobeys habsent
        (fun _ => he.not_writes (Call.isWrite_of_isQuiet c hquiet)) (fun bs => hne rfl) rfl
        (hsame (hne rfl) (hne rfl) rfl) (by rintro d bs ⟨⟩)
  · exact ⟨stage, f, h.succ_of_outside ho⟩

end Upkept

/-! ## What the agenda shows -/

theorem exists_upkept (i : Nat) : ∃ stage f, r.Upkept i stage f := by
  induction i with
  | zero => exact ⟨_, 0, .zero⟩
  | succ i ih =>
    obtain ⟨stage, f, h⟩ := ih
    exact h.succ

/-- A request writes once at most. -/
theorem Writes.moment_unique {r : Run registry} {k w w' : Nat} (h : r.Writes w k)
    (h' : r.Writes w' k) : w = w' := by
  have hlt {w w' : Nat} (h : r.Writes w k) (h' : r.Writes w' k) : ¬ w < w' := by
    intro hlt
    obtain ⟨stage, f, hw'⟩ := r.exists_upkept w'
    have hwritten : (stage k).debt ≠ .unwritten := fun hd => hw'.unwritten k hd w hlt h
    -- A request that has written once is at no stage at which it may write.
    rcases h' with ⟨b, he⟩ | ⟨id, he⟩ <;>
    · obtain ⟨s', hnext, -⟩ := hw'.exchange_obeys he he.answered
      generalize hs : stage k = s at hnext hwritten
      cases hnext with
      | other hquiet => cases hquiet
      | _ => exact hwritten rfl
  exact Nat.le_antisymm (Nat.not_lt.1 (hlt h' h)) (Nat.not_lt.1 (hlt h h'))

theorem Writes.exists_request {r : Run registry} {k w j : Nat} (h : r.Writes w k) (hj : w ≤ j) :
    ∃ p, (r.state j).requests[k]? = some p := by
  obtain ⟨c, reply, he⟩ := h.exists_exchange
  obtain ⟨p, next, hp, -⟩ := he.requests_get
  obtain ⟨p', hp', -⟩ := r.command_stays hj hp
  exact ⟨p', hp'⟩

/-- Who writes is among the requests that have arrived. -/
theorem Writes.lt_length {r : Run registry} {k w j : Nat} (h : r.Writes w k) (hj : w < j) :
    k < (r.state j).requests.length := by
  obtain ⟨p, hp⟩ := h.exists_request hj.le
  exact (List.getElem?_eq_some_iff.1 hp).1

/-- Before the moment `j` the agenda has been rebuilt, the last time with success. -/
def LastRebuildSucceeded (j : Nat) : Prop :=
  ∃ x < j, (∃ k bs n, r.Exchanges x k (.rebuildAgenda bs) (.ok n)) ∧ r.NoRebuild (x + 1) j

/-- If the agenda has an entry, the last rebuild was successful. -/
theorem lastRebuildSucceeded_of_mem {r : Run registry} {j : Nat} {e : Entry Blueprint}
    (he : e ∈ (r.agenda j).engine.entries) : r.LastRebuildSucceeded j := by
  have hcleared : ¬ (r.agenda j).Cleared := fun h => by
    rw [h.entries] at he
    cases he
  obtain ⟨stage, f, hupkept⟩ := r.exists_upkept j
  rcases hupkept.upToDate with ⟨-, -, h⟩ | ⟨x, hx⟩
  · exact absurd h hcleared
  rcases hx.outcome with ⟨k, n, hrebuild, -⟩ | ⟨-, h⟩
  · exact ⟨x, hx.lt, ⟨k, _, n, hrebuild⟩, hx.last⟩
  · exact absurd h hcleared

/-- At the moment `j` the agenda covers what the request `k` wrote at the moment `w`: it shows what
the store was to run at some moment after the write, or it is empty and stopped because a rebuild
after that of the request was refused. -/
def Covers (j w k : Nat) : Prop :=
  (∃ f, w < f ∧ f ≤ j ∧ (r.agenda j).Shows (r.memory f).scheduled) ∨
    (r.agenda j).Cleared ∧ ∃ y x, w < y ∧ y < x ∧ x < j ∧
      (∃ bs n, r.Exchanges y k (.rebuildAgenda bs) (.ok n)) ∧ r.Rejects x

/-- A request that succeeded and that writes has written, and the agenda covers it. -/
theorem exists_covered_write {j k : Nat} {c : Command} (h : (r.state j).Succeeded k c)
    (hwrites : c.writes = true) : ∃ w < j, r.Writes w k ∧ r.Covers j w k := by
  obtain ⟨stage, f, hupkept⟩ := r.exists_upkept j
  obtain ⟨p, hp, rfl, v, hv⟩ := h
  have hsettled := hupkept.obeys k p hp
  rw [hv] at hsettled
  have hpaid : (stage k).debt = .paid := hsettled.paid hwrites rfl
  obtain ⟨w, hw, hwk⟩ := hupkept.written k (by rw [hpaid]; decide)
  obtain ⟨y, hy, bs, n, hey, hwy⟩ := hupkept.paid k hpaid
  -- Nothing is due any more, so what the agenda was last rebuilt for is later than the write.
  have hwf : w < f := (hupkept.covered k w hw hwk).resolve_left (by rw [hpaid]; decide)
  refine ⟨w, hw, hwk, ?_⟩
  rcases hupkept.upToDate with ⟨-, rfl, -⟩ | ⟨x, hx⟩
  · exact absurd hwf (Nat.not_lt_zero w)
  rcases hx.outcome with ⟨k', n', -, hshows⟩ | ⟨hrejects, hcleared⟩
  · exact .inl ⟨f, hwf, (hx.fetch_lt.trans hx.lt).le, hshows⟩
  · refine .inr ⟨hcleared, y, x, hwy w hw hwk, ?_, hx.lt, ⟨bs, n, hey⟩, hrejects⟩
    -- The rebuild at `x` is the last one, and unlike that at `y` it failed.
    have hle : y ≤ x := by
      by_contra hxy
      exact hx.last y (by omega) hy k bs (.ok n) hey
    refine lt_of_le_of_ne hle ?_
    rintro rfl
    obtain ⟨k', bs', b, now, source, -, -, he'⟩ := hrejects
    cases (hey.unique he').2

/-- While no request is under way, nobody holds the agenda. -/
theorem free_of_quiet {j : Nat} (hquiet : (r.state j).Quiet) :
    (r.state j).shared.holder = none := by
  obtain ⟨stage, f, hupkept⟩ := r.exists_upkept j
  rw [Option.eq_none_iff_forall_ne_some]
  intro k hk
  have hholds := (hupkept.holder k).2 hk
  rcases Nat.lt_or_ge k (r.state j).requests.length with hlt | hge
  · have hp := List.getElem?_eq_getElem hlt
    obtain ⟨result, hresult⟩ := hquiet _ (List.mem_of_getElem? hp)
    have hsettled := hupkept.obeys k _ hp
    rw [hresult] at hsettled
    rw [hsettled.away] at hholds
    cases hholds
  · rw [hupkept.absent k hge] at hholds
    cases hholds

/-- While no request is under way, every write is older than what the agenda was rebuilt for. -/
theorem Upkept.no_write_of_quiet {r : Run registry} {j f : Nat} {stage : Nat → UpkeepStage}
    (h : r.Upkept j stage f) (hquiet : (r.state j).Quiet) :
    ∀ w, f ≤ w → w < j → ∀ k, ¬ r.Writes w k := by
  intro w hfw hwj k hwk
  obtain ⟨p, hp⟩ := hwk.exists_request hwj.le
  obtain ⟨result, hresult⟩ := hquiet p (List.mem_of_getElem? hp)
  have hsettled := h.obeys k p hp
  rw [hresult] at hsettled
  have hwf := (h.covered k w hwj hwk).resolve_left hsettled.not_due
  omega

theorem Rebuilt.eq_of_last {r : Run registry} {j f x x' : Nat} (h : r.Rebuilt j f x)
    (hx' : x' < j) {k : Nat} {bs : List Blueprint} {result : Except RequestError Nat}
    (he : r.Exchanges x' k (.rebuildAgenda bs) result) (hlast : r.NoRebuild (x' + 1) j) :
    x = x' := by
  rcases Nat.lt_trichotomy x x' with hlt | heq | hlt
  · exact absurd he (h.last x' hlt hx' k bs result)
  · exact heq
  · rcases h.outcome with ⟨k', n', he', -⟩ | ⟨⟨k', bs', b, now, source, -, -, he'⟩, -⟩
    · exact absurd he' (hlast x hlt h.lt k' _ _)
    · exact absurd he' (hlast x hlt h.lt k' _ _)

/-- If the last rebuild was successful, the agenda shows what it was for. -/
theorem UpToDate.of_last {r : Run registry} {j f x k n : Nat} {bs : List Blueprint}
    (h : r.UpToDate j f) (hx : x < j) (he : r.Exchanges x k (.rebuildAgenda bs) (.ok n))
    (hlast : r.NoRebuild (x + 1) j) :
    f < x ∧ (∃ k n, r.Exchanges x k (.rebuildAgenda (r.memory f).scheduled) (.ok n)) ∧
      (r.agenda j).Shows (r.memory f).scheduled := by
  rcases h with ⟨hno, -, -⟩ | ⟨x', hx'⟩
  · exact absurd he (hno x (Nat.zero_le x) hx k bs (.ok n))
  obtain rfl := hx'.eq_of_last hx he hlast
  rcases hx'.outcome with ⟨k', n', he', hshows⟩ | ⟨⟨k', bs', b, now, source, -, -, he'⟩, -⟩
  · exact ⟨hx'.fetch_lt, ⟨k', n', he'⟩, hshows⟩
  · cases (he.unique he').2

/-- While no request is under way, and the last rebuild was successful, the agenda shows what the
store is to run. -/
theorem shows_of_quiet {j : Nat} (hquiet : (r.state j).Quiet) (hlast : r.LastRebuildSucceeded j) :
    (r.agenda j).Shows (r.memory j).scheduled := by
  obtain ⟨stage, f, hupkept⟩ := r.exists_upkept j
  obtain ⟨x, hxj, ⟨k, bs, n, he⟩, hlast⟩ := hlast
  obtain ⟨hfx, -, hshows⟩ := hupkept.upToDate.of_last hxj he hlast
  have hfj : f ≤ j := (hfx.trans hxj).le
  rw [Memory.scheduled, r.blueprints_eq_of_no_write hfj (hupkept.no_write_of_quiet hquiet)]
  exact hshows

end Run

/-! ## Two creations -/

namespace Sample

/-- A new blueprint that is to run at midnight. -/
def midnightly : Draft where
  name := "nightly"
  mode := .advanced
  cronConfig := "0 0 * * *"
  plan := .single { plugin := "gitlab" }

/-- An empty store in 1970. -/
def empty : System :=
  { shared := { clock := .midnight .epoch } }

theorem empty_initial : empty.Initial :=
  ⟨rfl, rfl, rfl, by rintro id b ⟨⟩, by rintro id b ⟨⟩⟩

/-- The clock stands still, and the first identifier is drawn. -/
def chance : Chance :=
  { id := .ofNat 1, readings := fun _ => .midnight .epoch }

/-- A new blueprint that is to run by hand. -/
def handRun : Draft :=
  { midnightly with isManual := true }

/-- Two requests create blueprints. The first one takes the agenda and fetches what to run. Then the
second one saves, too late for this rebuild, which the first one carries on to its end. Only then
the second one rebuilds the agenda. -/
def creations : Run {} :=
  .ofActions {} empty
    ([.arrive (.create handRun), .arrive (.create midnightly)] ++
      List.replicate 5 (.proceed 0 chance) ++
      List.replicate 3 (.proceed 1 { chance with id := .ofNat 2 }) ++
      List.replicate 2 (.proceed 0 chance) ++ List.replicate 4 (.proceed 1 chance))
    empty_initial (by decide +kernel)

theorem creations_first : (creations.state 12).Succeeded 0 (.create handRun) :=
  creations.succeeded_of_arrived (i := 1) (by decide) rfl (by decide +kernel)

theorem creations_second : (creations.state 16).Succeeded 1 (.create midnightly) :=
  creations.succeeded_of_arrived (i := 2) (by decide) rfl (by decide +kernel)

end Sample

namespace Run

variable {registry : Registry} (r : Run registry)

/-- The agenda covers the one write of every request that has succeeded, at every moment from then
on. While no request is under way, and the last rebuild was successful, it shows what the store is
to run now. -/
theorem agenda_covers_writes (j : Nat) :
    (∀ k c, (r.state j).Succeeded k c → c.writes = true →
      ∃ w < j, (∀ w', r.Writes w' k ↔ w' = w) ∧ r.Covers j w k) ∧
    ((r.state j).Quiet → r.LastRebuildSucceeded j →
      (r.agenda j).Shows (r.memory j).scheduled) := by
  refine ⟨fun k c hsucceeded hwrites => ?_, r.shows_of_quiet⟩
  obtain ⟨w, hw, hwk, hcovers⟩ := r.exists_covered_write hsucceeded hwrites
  refine ⟨w, hw, fun w' => ⟨fun hw' => hw'.moment_unique hwk, ?_⟩, hcovers⟩
  rintro rfl
  exact hwk

/-- The first rebuild covers the write of its own request, but does not show the other blueprint,
which has been saved by then. In the end both writes are covered, and the agenda shows what the
store is to run. -/
theorem agenda_covers_creations :
    (∃ w < 12, (∀ w', Sample.creations.Writes w' 0 ↔ w' = w) ∧
      Sample.creations.Covers 12 w 0) ∧
    ((Sample.creations.agenda 12).jobs.length = 0 ∧
      (Sample.creations.memory 12).scheduled.length = 1) ∧
    (∃ w < 16, (∀ w', Sample.creations.Writes w' 1 ↔ w' = w) ∧
      Sample.creations.Covers 16 w 1) ∧
    (Sample.creations.agenda 16).Shows (Sample.creations.memory 16).scheduled ∧
    (Sample.creations.agenda 16).jobs.length = 1 := by
  obtain ⟨hcovered, -⟩ := Sample.creations.agenda_covers_writes 12
  obtain ⟨hcovered', hquiet⟩ := Sample.creations.agenda_covers_writes 16
  have hentries : (Sample.creations.agenda 16).engine.entries.length = 1 := by decide +kernel
  obtain ⟨e, he⟩ := List.exists_mem_of_length_pos (hentries ▸ Nat.one_pos)
  refine ⟨hcovered 0 _ Sample.creations_first rfl, ⟨by decide +kernel, by decide +kernel⟩,
    hcovered' 1 _ Sample.creations_second rfl,
    hquiet (by decide +kernel) (lastRebuildSucceeded_of_mem he), ?_⟩
  rw [Agenda.jobs, List.length_map, hentries]

end Run

end Ingestion
