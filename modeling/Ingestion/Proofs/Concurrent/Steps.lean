import Mathlib
import Ingestion.Proofs.Concurrent.System
import Ingestion.Proofs.Table

/-!
# What a step changes

A step of a run is either a call of one request, with its reply, or comes from outside and only
lets requests arrive, moves the timer, or adds to the projects and settings (`Run.step_cases`).
What a call leaves as it is depends on the kind of the call (`Shared.Frame`).

A protocol that every command obeys can be followed along a run: at each moment every request is
at some stage of it, and what is known of the stage is kept from step to step
(`Run.exists_stage`).
-/

namespace Ingestion

/-! ## Calls -/

namespace Shared

variable {registry : Registry} {k : Nat} {chance : Chance} {s s' : Shared}

/-- What a call leaves as it is. -/
structure Frame (c : Call) (s s' : Shared) : Prop where
  blueprints : c.isWrite = false → s'.memory.blueprints = s.memory.blueprints
  metrics : s'.memory.metrics = s.memory.metrics
  projects : s'.memory.projects = s.memory.projects
  agenda : (∀ bs, c ≠ .rebuildAgenda bs) → c ≠ .stopAgenda → s'.agenda = s.agenda
  holder : c ≠ .lockAgenda → c ≠ .unlockAgenda → s'.holder = s.holder
  issued : ∀ id ∈ s.issued, id ∈ s'.issued

theorem Frame.refl (c : Call) (s : Shared) : Frame c s s :=
  ⟨fun _ => rfl, rfl, rfl, fun _ _ => rfl, fun _ _ => rfl, fun _ h => h⟩

theorem answer_frame {c : Call} {reply : c.Reply}
    (h : s.answer registry k chance c = some (reply, s')) : Frame c s s' := by
  cases c with
  | saveBlueprint b =>
    simp only [answer, Memory.saveBlueprint] at h
    split at h
    · next memory hsave =>
      split at hsave
      · cases hsave
      · cases hsave
        cases h
        exact ⟨by rintro ⟨⟩, rfl, rfl, fun _ _ => rfl, fun _ _ => rfl, fun _ h => h⟩
    · cases h
      exact .refl _ _
  | deleteBlueprint id =>
    cases h
    exact ⟨by rintro ⟨⟩, rfl, rfl, fun _ _ => rfl, fun _ _ => rfl, fun _ h => h⟩
  | submitPipeline p =>
    simp only [answer] at h
    split at h
    · cases h
    · cases h
      exact ⟨fun _ => rfl, rfl, rfl, fun _ _ => rfl, fun _ _ => rfl,
        fun _ h => List.mem_cons_of_mem _ h⟩
  | freshId =>
    simp only [answer] at h
    split at h
    · cases h
    · cases h
      exact ⟨fun _ => rfl, rfl, rfl, fun _ _ => rfl, fun _ _ => rfl,
        fun _ h => List.mem_cons_of_mem _ h⟩
  | lockAgenda =>
    simp only [answer] at h
    split at h
    · cases h
      exact ⟨fun _ => rfl, rfl, rfl, fun _ _ => rfl, fun h => absurd rfl h, fun _ h => h⟩
    · cases h
  | unlockAgenda =>
    cases h
    exact ⟨fun _ => rfl, rfl, rfl, fun _ _ => rfl, fun _ h => absurd rfl h, fun _ h => h⟩
  | rebuildAgenda bs =>
    cases h
    exact ⟨fun _ => rfl, rfl, rfl, fun h => absurd rfl (h bs), fun _ _ => rfl, fun _ h => h⟩
  | stopAgenda =>
    cases h
    exact ⟨fun _ => rfl, rfl, rfl, fun _ h => absurd rfl h, fun _ _ => rfl, fun _ h => h⟩
  | _ =>
    cases h
    exact .refl _ _

/-- A lookup changes nothing. -/
theorem answer_lookup {c : Call} {reply : c.Reply} (hc : c.isLookup = true)
    (h : s.answer registry k chance c = some (reply, s')) : s' = s := by
  cases c with
  | findOwner | findProject | findMetrics | generatePlan =>
    cases h
    rfl
  | _ => cases hc

/-- A blueprint is saved only if its project does not belong to another one. -/
theorem answer_save {b : Blueprint}
    (h : s.answer registry k chance (.saveBlueprint b) = some (.ok (), s')) :
    s.memory.isTaken b = false ∧
      s' = { s with memory :=
        { s.memory with blueprints := s.memory.blueprints.insert b.id b } } := by
  simp only [answer, Memory.saveBlueprint] at h
  split at h
  · next memory hsave =>
    split at hsave
    · cases hsave
    · next htaken =>
      cases hsave
      cases h
      exact ⟨Bool.eq_false_of_not_eq_true htaken, rfl⟩
  · cases h

theorem answer_save_ok {b : Blueprint}
    (h : s.answer registry k chance (.saveBlueprint b) = some (.ok (), s')) :
    s'.memory.blueprints = s.memory.blueprints.insert b.id b := by
  rw [(answer_save h).2]

/-- A blueprint is refused only if its project belongs to another one. -/
theorem answer_save_error {b : Blueprint} {e : StoreError}
    (h : s.answer registry k chance (.saveBlueprint b) = some (.error e, s')) :
    s.memory.isTaken b = true ∧ e = Memory.taken b ∧ s' = s := by
  simp only [answer, Memory.saveBlueprint] at h
  split at h
  · cases h
  · next e' hsave =>
    split at hsave
    · next htaken =>
      cases hsave
      cases h
      exact ⟨htaken, rfl, rfl⟩
    · cases hsave

theorem answer_delete {id : Uuid} {reply : (Call.deleteBlueprint id).Reply}
    (h : s.answer registry k chance (.deleteBlueprint id) = some (reply, s')) :
    reply = .ok (s.memory.findBlueprint id).isSome ∧
      s'.memory.blueprints = s.memory.blueprints.erase id := by
  cases h
  exact ⟨rfl, rfl⟩

theorem answer_freshId {id : Uuid}
    (h : s.answer registry k chance .freshId = some (id, s')) :
    id ∉ s.issued ∧ id ∈ s'.issued := by
  simp only [answer] at h
  split at h
  · cases h
  · next hfresh =>
    cases h
    exact ⟨hfresh, List.mem_cons_self⟩

end Shared

/-! ## Steps of a run -/

namespace Run

variable {registry : Registry} (r : Run registry)

/-- What a step from outside changes and what it does not. -/
structure Outside (i : Nat) : Prop where
  silent : ∀ k c reply, ¬ r.Exchanges i k c reply
  requests : ∃ cs : List Command,
    (r.state (i + 1)).requests = (r.state i).requests ++ cs.map Pending.arrived
  blueprints : (r.memory (i + 1)).blueprints = (r.memory i).blueprints
  metrics : (∀ m, r.action i ≠ .putMetric m) → (r.memory (i + 1)).metrics = (r.memory i).metrics
  projects : (r.memory (i + 1)).projects = (r.memory i).projects ∨
    ∃ p : Project, (r.memory (i + 1)).projects = (r.memory i).projects.insert p.name p
  agenda : r.agenda (i + 1) = r.agenda i ∨ ∃ now, r.agenda (i + 1) = ((r.agenda i).wake now).2
  holder : (r.state (i + 1)).shared.holder = (r.state i).shared.holder
  issued : (r.state (i + 1)).shared.issued = (r.state i).shared.issued

variable {r} in
/-- A request that goes on makes its next call. -/
theorem exchanges_of_proceed {i k : Nat} {chance : Chance} (ha : r.action i = .proceed k chance) :
    ∃ c reply, r.Exchanges i k c reply := by
  have h := r.step i
  rw [ha] at h
  simp only [System.step, System.proceed] at h
  split at h
  · cases h
  · next p hp =>
    split at h
    · cases h
    · next c next hrest =>
      split at h
      · cases h
      · next reply shared hanswer =>
        have hs := Option.some.inj h
        exact ⟨c, reply, chance, p, next, ha, hp, hrest, by rw [← hs]; exact hanswer,
          by rw [← hs]⟩

theorem step_cases (i : Nat) : (∃ k c reply, r.Exchanges i k c reply) ∨ r.Outside i := by
  have h := r.step i
  have hsilent (ha : ∀ k chance, r.action i ≠ .proceed k chance) :
      ∀ k c reply, ¬ r.Exchanges i k c reply := by
    rintro k c reply ⟨chance, p, next, hproceed, -⟩
    exact ha k chance hproceed
  cases ha : r.action i with
  | proceed k chance => exact .inl ⟨k, exchanges_of_proceed ha⟩
  | idle =>
    right
    rw [ha] at h
    have hs := Option.some.inj h
    refine ⟨hsilent (by simp [ha]), ⟨[], ?_⟩, ?_, fun _ => ?_, .inl ?_, .inl ?_, ?_, ?_⟩ <;>
      simp [memory, agenda, ← hs]
  | arrive c =>
    right
    rw [ha] at h
    have hs := Option.some.inj h
    refine ⟨hsilent (by simp [ha]), ⟨[c], ?_⟩, ?_, fun _ => ?_, .inl ?_, .inl ?_, ?_, ?_⟩ <;>
      simp [memory, agenda, ← hs]
  | tick now =>
    right
    rw [ha] at h
    have hs : System.mk
        { (r.state i).shared with clock := now, agenda := ((r.agenda i).wake now).2 }
        ((r.state i).requests ++ ((r.agenda i).wake now).1.map fun b => .arrived (.run b)) =
        r.state (i + 1) := Option.some.inj h
    refine ⟨hsilent (by simp [ha]), ⟨((r.agenda i).wake now).1.map .run, ?_⟩, ?_, fun _ => ?_,
      .inl ?_, .inr ⟨now, ?_⟩, ?_, ?_⟩
    · rw [← hs, List.map_map]
      rfl
    all_goals simp [memory, agenda, ← hs]
  | addProject p =>
    right
    rw [ha] at h
    have hs := Option.some.inj h
    refine ⟨hsilent (by simp [ha]), ⟨[], ?_⟩, ?_, fun _ => ?_, .inr ⟨p, ?_⟩, .inl ?_, ?_, ?_⟩ <;>
      simp [memory, agenda, ← hs, Memory.addProject]
  | putMetric m =>
    right
    rw [ha] at h
    have hs := Option.some.inj h
    refine ⟨hsilent (by simp [ha]), ⟨[], ?_⟩, ?_, fun hm => absurd ha (hm m), .inl ?_, .inl ?_,
      ?_, ?_⟩ <;>
      simp [memory, agenda, ← hs, Memory.putMetric]

theorem Exchanges.exists_answer {r : Run registry} {i k : Nat} {c : Call} {reply : c.Reply}
    (h : r.Exchanges i k c reply) : ∃ chance,
      (r.state i).shared.answer registry k chance c = some (reply, (r.state (i + 1)).shared) := by
  obtain ⟨chance, p, next, -, -, -, hanswer, -⟩ := h
  exact ⟨chance, hanswer⟩

/-- A call that is answered in one way only gets this reply. -/
theorem Exchanges.reply_eq {r : Run registry} {i k : Nat} {c : Call} {reply reply' : c.Reply}
    (h : r.Exchanges i k c reply) (hreply : ∀ chance,
      (r.state i).shared.answer registry k chance c = some (reply', (r.state i).shared)) :
    reply = reply' := by
  obtain ⟨chance, hanswer⟩ := h.exists_answer
  rw [hreply chance] at hanswer
  exact (Prod.mk.inj (Option.some.inj hanswer)).1.symm

/-- The reply to a query tells what the store holds. -/
theorem Exchanges.findBlueprints_reply {r : Run registry} {i k : Nat} {q : Query}
    {reply : (Call.findBlueprints q).Reply} (h : r.Exchanges i k (.findBlueprints q) reply) :
    reply = .ok ((r.memory i).findBlueprints q) :=
  h.reply_eq fun _ => rfl

theorem Exchanges.frame {r : Run registry} {i k : Nat} {c : Call} {reply : c.Reply}
    (h : r.Exchanges i k c reply) :
    Shared.Frame c (r.state i).shared (r.state (i + 1)).shared := by
  obtain ⟨chance, hanswer⟩ := h.exists_answer
  exact Shared.answer_frame hanswer

/-- Only one request goes on in a step, by one call. -/
theorem Exchanges.unique {r : Run registry} {i k k' : Nat} {c c' : Call} {reply : c.Reply}
    {reply' : c'.Reply} (h : r.Exchanges i k c reply) (h' : r.Exchanges i k' c' reply') :
    k = k' ∧ (⟨c, reply⟩ : (c : Call) × c.Reply) = ⟨c', reply'⟩ := by
  obtain ⟨chance, p, next, ha, hp, hrest, hanswer, -⟩ := h
  obtain ⟨chance', p', next', ha', hp', hrest', hanswer', -⟩ := h'
  obtain ⟨rfl, rfl⟩ := Action.proceed.inj (ha.symm.trans ha')
  obtain rfl := Option.some.inj (hp.symm.trans hp')
  obtain ⟨rfl, -⟩ := Program.call.inj (hrest.symm.trans hrest')
  obtain ⟨rfl, -⟩ := Prod.mk.inj (Option.some.inj (hanswer.symm.trans hanswer'))
  exact ⟨rfl, rfl⟩

/-! ## Changes of the store -/

/-- At the moment `i` the request `k` changes a blueprint of the store. -/
def Writes (i k : Nat) : Prop :=
  (∃ b, r.Exchanges i k (.saveBlueprint b) (.ok ())) ∨
    ∃ id, r.Exchanges i k (.deleteBlueprint id) (.ok true)

/-- A write is a call. -/
theorem Writes.exists_exchange {r : Run registry} {i k : Nat} (h : r.Writes i k) :
    ∃ c reply, r.Exchanges i k c reply := by
  rcases h with ⟨b, h⟩ | ⟨id, h⟩
  · exact ⟨_, _, h⟩
  · exact ⟨_, _, h⟩

/-- Only one request writes in a step. -/
theorem Writes.unique {r : Run registry} {i k k' : Nat} (h : r.Writes i k) (h' : r.Writes i k') :
    k = k' := by
  rcases h with ⟨b, h⟩ | ⟨id, h⟩ <;> rcases h' with ⟨b', h'⟩ | ⟨id', h'⟩ <;>
    exact (h.unique h').1

/-- A call of another kind is no write. -/
theorem Exchanges.not_writes {r : Run registry} {i k k' : Nat} {c : Call} {reply : c.Reply}
    (h : r.Exchanges i k c reply) (hc : c.isWrite = false) : ¬ r.Writes i k' := by
  rintro (⟨b, h'⟩ | ⟨id, h'⟩)
  · cases (h.unique h').2
    cases hc
  · cases (h.unique h').2
    cases hc

/-- A write that has no effect is no write. -/
theorem Exchanges.not_writes_of_reply {r : Run registry} {i k k' : Nat} {c : Call} {reply : c.Reply}
    (h : r.Exchanges i k c reply) (hsave : ∀ b, (⟨c, reply⟩ : (c : Call) × c.Reply) ≠
      ⟨.saveBlueprint b, .ok ()⟩) (hdelete : ∀ id, (⟨c, reply⟩ : (c : Call) × c.Reply) ≠
      ⟨.deleteBlueprint id, .ok true⟩) : ¬ r.Writes i k' := by
  rintro (⟨b, h'⟩ | ⟨id, h'⟩)
  · exact hsave b (h.unique h').2
  · exact hdelete id (h.unique h').2

theorem Exchanges.not_rebuilds {r : Run registry} {i k : Nat} {c : Call} {reply : c.Reply}
    (h : r.Exchanges i k c reply) (hc : ∀ bs, c ≠ .rebuildAgenda bs) :
    ∀ k bs result, ¬ r.Exchanges i k (.rebuildAgenda bs) result := by
  intro k' bs result h'
  cases (h.unique h').2
  exact hc bs rfl

theorem Exchanges.writes_or_blueprints_eq {r : Run registry} {i k : Nat} {c : Call}
    {reply : c.Reply} (h : r.Exchanges i k c reply) :
    r.Writes i k ∨ (r.memory (i + 1)).blueprints = (r.memory i).blueprints := by
  cases hw : c.isWrite with
  | false => exact .inr (h.frame.blueprints hw)
  | true =>
    have h₀ := h
    obtain ⟨chance, hanswer⟩ := h.exists_answer
    cases c with
    | saveBlueprint b =>
      cases reply with
      | ok => exact .inl (.inl ⟨b, h₀⟩)
      | error e =>
        right
        rw [memory, (Shared.answer_save_error hanswer).2.2]
        rfl
    | deleteBlueprint id =>
      obtain ⟨rfl, hblueprints⟩ := Shared.answer_delete hanswer
      cases hfound : (r.state i).shared.memory.findBlueprint id with
      | some b =>
        rw [hfound] at h₀
        exact .inl (.inr ⟨id, h₀⟩)
      -- To erase what is not there changes nothing.
      | none => exact .inr (hblueprints.trans (Table.erase_of_find?_eq_none hfound))
    | _ => cases hw

theorem blueprints_eq_or_writes (i : Nat) :
    (r.memory (i + 1)).blueprints = (r.memory i).blueprints ∨ ∃ k, r.Writes i k := by
  rcases r.step_cases i with ⟨k, c, reply, h⟩ | h
  · rcases h.writes_or_blueprints_eq with h | h
    · exact .inr ⟨k, h⟩
    · exact .inl h
  · exact .inl h.blueprints

/-- Between two moments without writes the blueprints stay the same. -/
theorem blueprints_eq_of_no_write {i j : Nat} (hij : i ≤ j)
    (h : ∀ w, i ≤ w → w < j → ∀ k, ¬ r.Writes w k) :
    (r.memory j).blueprints = (r.memory i).blueprints := by
  induction j, hij using Nat.le_induction with
  | base => rfl
  | succ j hij ih =>
    rcases r.blueprints_eq_or_writes j with hj | ⟨k, hk⟩
    · rw [hj]
      exact ih fun w hiw hwj => h w hiw (by omega)
    · exact absurd hk (h j hij (by omega) k)

/-- A blueprint is stored under its own identifier. -/
theorem keyed (i : Nat) {id : Uuid} {b : Blueprint} (h : (r.memory i).findBlueprint id = some b) :
    b.id = id := by
  induction i with
  | zero => exact r.initial.keyed id b h
  | succ i ih =>
    rw [Memory.findBlueprint] at h
    rcases r.blueprints_eq_or_writes i with hi | ⟨k, ⟨b', hw⟩ | ⟨id', hw⟩⟩
    · rw [hi] at h
      exact ih h
    · obtain ⟨chance, hanswer⟩ := hw.exists_answer
      rw [memory, Shared.answer_save_ok hanswer, Table.find?_insert] at h
      split at h
      · next hid =>
        cases h
        exact hid.symm
      · exact ih h
    · obtain ⟨chance, hanswer⟩ := hw.exists_answer
      rw [memory, (Shared.answer_delete hanswer).2, Table.find?_erase] at h
      split at h
      · cases h
      · exact ih h

/-! ## Requests -/

theorem Exchanges.requests_get {r : Run registry} {i k : Nat} {c : Call} {reply : c.Reply}
    (h : r.Exchanges i k c reply) : ∃ p next, (r.state i).requests[k]? = some p ∧
      p.rest = .call c next ∧
      ∀ k', (r.state (i + 1)).requests[k']? =
        if k' = k then some { p with rest := next reply } else (r.state i).requests[k']? := by
  obtain ⟨chance, p, next, -, hp, hrest, -, hrequests⟩ := h
  refine ⟨p, next, hp, hrest, fun k' => ?_⟩
  have hlt : k < (r.state i).requests.length := (List.getElem?_eq_some_iff.1 hp).1
  rw [hrequests, List.getElem?_set]
  by_cases hk : k' = k
  · simp [hk, hlt]
  · simp [hk, Ne.symm hk]

theorem Outside.requests_get {r : Run registry} {i : Nat} (h : r.Outside i) {k : Nat} {p : Pending}
    (hp : (r.state (i + 1)).requests[k]? = some p) :
    (r.state i).requests[k]? = some p ∨
      (r.state i).requests.length ≤ k ∧ ∃ c, p = .arrived c := by
  obtain ⟨cs, hcs⟩ := h.requests
  rw [hcs] at hp
  rcases Nat.lt_or_ge k (r.state i).requests.length with hk | hk
  · rw [List.getElem?_append_left hk] at hp
    exact .inl hp
  · rw [List.getElem?_append_right hk, List.getElem?_map, Option.map_eq_some_iff] at hp
    obtain ⟨c, -, rfl⟩ := hp
    exact .inr ⟨hk, c, rfl⟩

/-- A request that has arrived stays, and so does its command. -/
theorem command_stays {i j : Nat} (hij : i ≤ j) {k : Nat} {p : Pending}
    (hp : (r.state i).requests[k]? = some p) :
    ∃ p', (r.state j).requests[k]? = some p' ∧ p'.command = p.command := by
  induction j, hij using Nat.le_induction with
  | base => exact ⟨p, hp, rfl⟩
  | succ j hij ih =>
    obtain ⟨p', hp', hcommand⟩ := ih
    rcases r.step_cases j with ⟨k', c, reply, h⟩ | h
    · obtain ⟨q, next, hq, -, hget⟩ := h.requests_get
      rw [hget k]
      split
      · next hk =>
        subst hk
        obtain rfl := Option.some.inj (hp'.symm.trans hq)
        exact ⟨_, rfl, hcommand⟩
      · exact ⟨p', hp', hcommand⟩
    · obtain ⟨cs, hcs⟩ := h.requests
      refine ⟨p', ?_, hcommand⟩
      rw [hcs, List.getElem?_append_left (List.getElem?_eq_some_iff.1 hp').1]
      exact hp'

/-- A request that has come to its end stays as it is. -/
theorem end_stays {i j : Nat} (hij : i ≤ j) {k : Nat} {p : Pending}
    {result : Except RequestError p.command.Value} (hp : (r.state i).requests[k]? = some p)
    (hrest : p.rest = .done result) : (r.state j).requests[k]? = some p := by
  induction j, hij using Nat.le_induction with
  | base => exact hp
  | succ j hij ih =>
    rcases r.step_cases j with ⟨k', c, reply, h⟩ | h
    · obtain ⟨q, next, hq, hcall, hget⟩ := h.requests_get
      rw [hget k]
      split
      · next hk =>
        subst hk
        obtain rfl := Option.some.inj (ih.symm.trans hq)
        rw [hrest] at hcall
        cases hcall
      · exact ih
    · obtain ⟨cs, hcs⟩ := h.requests
      rw [hcs, List.getElem?_append_left (List.getElem?_eq_some_iff.1 ih).1]
      exact ih

theorem succeeded_stays {i j : Nat} (hij : i ≤ j) {k : Nat} {c : Command}
    (h : (r.state i).Succeeded k c) : (r.state j).Succeeded k c := by
  obtain ⟨p, hp, hc, v, hv⟩ := h
  exact ⟨p, r.end_stays hij hp hv, hc, v, hv⟩

theorem arrived_of_arrive {i k : Nat} {c : Command} (ha : r.action i = .arrive c)
    (hk : (r.state i).requests.length = k) :
    (r.state (i + 1)).requests[k]? = some (.arrived c) := by
  have hstep := r.step i
  rw [ha] at hstep
  rw [← Option.some.inj hstep, ← hk]
  exact List.getElem?_concat_length

theorem succeeded_of_arrived {i j k : Nat} {c : Command} (hij : i ≤ j)
    (hi : (r.state i).requests[k]? = some (.arrived c))
    (hj : (r.state j).requests[k]?.any Pending.hasSucceeded = true) :
    (r.state j).Succeeded k c := by
  obtain ⟨p, hp, hcommand⟩ := r.command_stays hij hi
  refine ⟨p, hp, hcommand, ?_⟩
  rw [hp, Option.any_some, Pending.hasSucceeded] at hj
  split at hj
  · next v hv => exact ⟨v, hv⟩
  · cases hj

/-! ## Following a protocol -/

/-- A protocol that a command obeys, followed along a run up to the moment `n` for a request `k`
that carries it out. `Known i s` is what is known at the moment `i` of the request if it is at the
stage `s`. It has to hold when the request arrives, to be kept by the steps of others, and to go
over from stage to stage. -/
theorem exists_stage_of {σ : Type} {P : Protocol σ} {start : σ} {k n : Nat} {c : Command}
    {post : σ → Except RequestError c.Value → Prop} (hobeys : c.program.Obeys P start post)
    (hreplies : ∀ i < n, ∀ call reply, r.Exchanges i k call reply → P.Replies call reply)
    (Known : Nat → σ → Prop)
    (harrive : ∀ i < n, (r.state i).requests.length ≤ k → Known (i + 1) start)
    (hkeep : ∀ i < n, ∀ s, (∀ call reply, ¬ r.Exchanges i k call reply) →
      Known i s → Known (i + 1) s)
    (hstep : ∀ i < n, ∀ s call reply s', r.Exchanges i k call reply → P.Next s call reply s' →
      Known i s → Known (i + 1) s')
    {i : Nat} (hi : i ≤ n) {rest : Program (Except RequestError c.Value)}
    (hp : (r.state i).requests[k]? = some ⟨c, rest⟩) : ∃ s, rest.Obeys P s post ∧ Known i s := by
  induction i generalizing rest with
  | zero =>
    rw [r.initial.requests] at hp
    cases hp
  | succ i ih =>
    have ih {rest : Program (Except RequestError c.Value)}
        (hp : (r.state i).requests[k]? = some ⟨c, rest⟩) :
        ∃ s, rest.Obeys P s post ∧ Known i s := ih (Nat.le_of_succ_le hi) hp
    rcases r.step_cases i with ⟨k', call, reply, h⟩ | h
    · obtain ⟨q, next, hq, hrest, hget⟩ := h.requests_get
      rw [hget k] at hp
      -- The request that goes on gets to the next stage, the other ones stay where they are.
      split at hp
      · next hk =>
        subst hk
        obtain ⟨rfl, hp⟩ := Pending.mk.inj (Option.some.inj hp)
        cases hp
        have hq : (r.state i).requests[k]? = some ⟨q.command, q.rest⟩ := hq
        obtain ⟨s, hs, hknown⟩ := ih hq
        rw [hrest] at hs
        obtain ⟨s', hnext, hs'⟩ := hs reply (hreplies i hi call reply h)
        exact ⟨s', hs', hstep i hi s call reply s' h hnext hknown⟩
      · next hk =>
        obtain ⟨s, hs, hknown⟩ := ih hp
        refine ⟨s, hs, hkeep i hi s (fun call reply' h' => ?_) hknown⟩
        exact hk (h'.unique h).1
    · rcases h.requests_get hp with hp | ⟨hk, c', hp⟩
      · obtain ⟨s, hs, hknown⟩ := ih hp
        exact ⟨s, hs, hkeep i hi s (fun call reply h' => h.silent k call reply h') hknown⟩
      · obtain ⟨rfl, hp⟩ := Pending.mk.inj hp
        cases hp
        exact ⟨start, hobeys, harrive i hi hk⟩

/-- A protocol that all commands obey, followed along a run. `Known i k c s` is what is known at
the moment `i` of a request `k` for the command `c` that is at the stage `s`. -/
theorem exists_stage {σ : Type} (P : Nat → Command → Protocol σ) {start : σ}
    {post : (c : Command) → σ → Except RequestError c.Value → Prop}
    (hobeys : ∀ k (c : Command), c.program.Obeys (P k c) start (post c))
    (hreplies : ∀ i k c reply, r.Exchanges i k c reply → ∀ cmd, (P k cmd).Replies c reply)
    (Known : Nat → Nat → Command → σ → Prop)
    (harrive : ∀ i k c, (r.state i).requests.length ≤ k → Known (i + 1) k c start)
    (hkeep : ∀ i k c s, (∀ call reply, ¬ r.Exchanges i k call reply) →
      Known i k c s → Known (i + 1) k c s)
    (hstep : ∀ i k c s call reply s', r.Exchanges i k call reply →
      (P k c).Next s call reply s' → Known i k c s → Known (i + 1) k c s')
    (i k : Nat) {p : Pending} (hp : (r.state i).requests[k]? = some p) :
    ∃ s, p.rest.Obeys (P k p.command) s (post p.command) ∧ Known i k p.command s :=
  r.exists_stage_of (hobeys k p.command) (fun i _ call reply he => hreplies i k call reply he _)
    (fun i s => Known i k p.command s) (fun i _ hk => harrive i k _ hk)
    (fun i _ s hsilent h => hkeep i k _ s hsilent h)
    (fun i _ s call reply s' he hnext h => hstep i k _ s call reply s' he hnext h) le_rfl hp

end Run

end Ingestion
