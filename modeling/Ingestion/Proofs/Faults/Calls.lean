import Mathlib
import Ingestion.Proofs.Concurrent.Freshness
import Ingestion.Proofs.Concurrent.Records

/-!
# Calls that fail

The store, the generator of plans and the queue of pipelines can fail at any call, and the engine
can refuse any entry of a rebuild. A call that fails has no effect, except that a rebuild clears the
agenda. `Shared.Responds` tells the replies that are so possible, and `Shared.Performs` what a
program comes to if nothing else happens in between.

A state is reached by calls of requests in any order, with any failures. In such a state the agenda
is consistent, and every blueprint is stored under its own identifier, which is in use
(`Shared.Reached.sound`). A request leads from such a state to another one, whatever calls of it
fail (`Shared.Reached.performs`). Requests side by side do so, too (`Run.reached`).
-/

namespace Ingestion

/-- The replies by which the store, the generator or the queue tell that they have failed. -/
inductive Call.Fails : (c : Call) → c.Reply → Prop
  | findBlueprints {q : Query} (e : StoreError) : Fails (.findBlueprints q) (.error e)
  | findBlueprint {id : Uuid} (e : StoreError) : Fails (.findBlueprint id) (.error e)
  | findOwner {project : String} (e : StoreError) : Fails (.findOwner project) (.error e)
  | saveBlueprint {b : Blueprint} (e : StoreError) : Fails (.saveBlueprint b) (.error e)
  | deleteBlueprint {id : Uuid} (e : StoreError) : Fails (.deleteBlueprint id) (.error e)
  | findProject {name : String} (e : StoreError) : Fails (.findProject name) (.error e)
  | findMetrics {project : String} (e : StoreError) : Fails (.findMetrics project) (.error e)
  | submitPipeline {p : NewPipeline} (e : StoreError) : Fails (.submitPipeline p) (.error e)
  | generatePlan {r : PlanRequest} (e : PlanError) : Fails (.generatePlan r) (.error e)

namespace Shared

/-- A call of the request `k` gets this reply, and leaves this state behind. -/
inductive Responds (registry : Registry) (k : Nat) (s : Shared) :
    (c : Call) → c.Reply → Shared → Prop
  | answers {c : Call} {reply : c.Reply} {s' : Shared} (chance : Chance)
      (h : s.answer registry k chance c = some (reply, s')) : Responds registry k s c reply s'
  | fails {c : Call} {reply : c.Reply} (h : c.Fails reply) : Responds registry k s c reply s
  /-- A rebuild in which the engine may refuse entries. -/
  | rebuilds {bs : List Blueprint} (met : Surroundings) :
      Responds registry k s (.rebuildAgenda bs) (s.agenda.rebuild met bs).1
        { s with agenda := (s.agenda.rebuild met bs).2 }

/-- The request `k` carries out a program while nothing else happens. -/
inductive Performs (registry : Registry) (k : Nat) {α : Type} :
    Program α → Shared → α → Shared → Prop
  | done {a : α} {s : Shared} : Performs registry k (.done a) s a s
  | call {c : Call} {next : c.Reply → Program α} {s s' s'' : Shared} {reply : c.Reply} {a : α}
      (h : s.Responds registry k c reply s') (hrest : Performs registry k (next reply) s' a s'') :
      Performs registry k (.call c next) s a s''

/-! ## What a call can come to -/

namespace Responds

variable {registry : Registry} {k : Nat} {s s' : Shared}

theorem metrics {c : Call} {reply : c.Reply} (h : s.Responds registry k c reply s') :
    s'.memory.metrics = s.memory.metrics := by
  cases h with
  | answers chance h => exact (answer_frame h).metrics
  | fails h => rfl
  | rebuilds met => rfl

/-- A lookup changes nothing. -/
theorem eq_of_isLookup {c : Call} {reply : c.Reply} (h : s.Responds registry k c reply s')
    (hc : c.isLookup = true) : s' = s := by
  cases h with
  | answers chance h => exact answer_lookup hc h
  | fails h => rfl
  | rebuilds met => cases hc

theorem findMetrics {project : String} {settings : List MetricSetting}
    (h : s.Responds registry k (.findMetrics project) (.ok settings) s') :
    settings = s.memory.findMetrics project := by
  cases h with
  | answers chance h =>
    cases h
    rfl
  | fails h => cases h

theorem generatePlan {r : PlanRequest} {generated : Plan}
    (h : s.Responds registry k (.generatePlan r) (.ok generated) s') :
    registry.generate r = .ok generated := by
  cases h with
  | answers chance h =>
    simp only [answer, Option.some.injEq, Prod.mk.injEq] at h
    exact h.1
  | fails h => cases h

theorem findBlueprint {id : Uuid} {reply : (Call.findBlueprint id).Reply}
    (h : s.Responds registry k (.findBlueprint id) reply s') :
    s' = s ∧ ∀ b, reply = .ok (some b) → s.memory.findBlueprint id = some b := by
  cases h with
  | answers chance h =>
    cases h
    refine ⟨rfl, ?_⟩
    intro b hb
    exact Except.ok.inj hb
  | fails h =>
    cases h
    exact ⟨rfl, by rintro b ⟨⟩⟩

theorem findBlueprints {q : Query} {reply : (Call.findBlueprints q).Reply}
    (h : s.Responds registry k (.findBlueprints q) reply s') :
    s' = s ∧ ∀ found, reply = .ok found → found = s.memory.findBlueprints q := by
  cases h with
  | answers chance h =>
    cases h
    refine ⟨rfl, ?_⟩
    rintro found ⟨⟩
    rfl
  | fails h =>
    cases h
    exact ⟨rfl, by rintro found ⟨⟩⟩

theorem now {t : Instant} (h : s.Responds registry k .now t s') : s' = s := by
  cases h with
  | answers chance h =>
    cases h
    rfl
  | fails h => rfl

theorem freshId {id : Uuid} (h : s.Responds registry k .freshId id s') :
    s'.memory = s.memory ∧ s'.agenda = s.agenda ∧ id ∉ s.issued ∧ id ∈ s'.issued := by
  cases h with
  | answers chance h =>
    simp only [answer] at h
    split at h
    · cases h
    · next hfresh =>
      cases h
      exact ⟨rfl, rfl, hfresh, List.mem_cons_self⟩
  | fails h => cases h

theorem lockAgenda {reply : Unit} (h : s.Responds registry k .lockAgenda reply s') :
    s'.memory = s.memory ∧ s'.agenda = s.agenda := by
  cases h with
  | answers chance h =>
    simp only [answer] at h
    split at h
    · cases h
      exact ⟨rfl, rfl⟩
    · cases h
  | fails h => exact ⟨rfl, rfl⟩

theorem unlockAgenda {reply : Unit} (h : s.Responds registry k .unlockAgenda reply s') :
    s'.memory = s.memory ∧ s'.agenda = s.agenda := by
  cases h with
  | answers chance h =>
    cases h
    exact ⟨rfl, rfl⟩
  | fails h => exact ⟨rfl, rfl⟩

theorem rebuildAgenda {bs : List Blueprint} {reply : (Call.rebuildAgenda bs).Reply}
    (h : s.Responds registry k (.rebuildAgenda bs) reply s') : ∃ met : Surroundings,
      reply = (s.agenda.rebuild met bs).1 ∧
        s' = { s with agenda := (s.agenda.rebuild met bs).2 } := by
  cases h with
  | answers chance h =>
    cases h
    exact ⟨{ clock := chance.readings }, rfl, rfl⟩
  | fails h => cases h
  | rebuilds met => exact ⟨met, rfl, rfl⟩

theorem saveBlueprint_ok {b : Blueprint}
    (h : s.Responds registry k (.saveBlueprint b) (.ok ()) s') :
    s' = { s with
      memory := { s.memory with blueprints := s.memory.blueprints.insert b.id b } } := by
  cases h with
  | answers chance h => exact (answer_save h).2
  | fails h => cases h

theorem saveBlueprint_error {b : Blueprint} {e : StoreError}
    (h : s.Responds registry k (.saveBlueprint b) (.error e) s') : s' = s := by
  cases h with
  | answers chance h => exact (answer_save_error h).2.2
  | fails h => rfl

theorem deleteBlueprint {id : Uuid} {reply : (Call.deleteBlueprint id).Reply}
    (h : s.Responds registry k (.deleteBlueprint id) reply s') :
    (∃ b, s.memory.findBlueprint id = some b ∧ reply = .ok true ∧
      s' = { s with memory := s.memory.deleteBlueprint id }) ∨ reply ≠ .ok true ∧ s' = s := by
  cases h with
  | answers chance h =>
    cases h
    cases hfound : s.memory.findBlueprint id with
    | some b => exact .inl ⟨b, rfl, rfl, rfl⟩
    | none =>
      -- To erase what is not there changes nothing.
      have hsame : s.memory.deleteBlueprint id = s.memory := by
        rw [Memory.deleteBlueprint, Table.erase_of_find?_eq_none hfound]
      refine .inr ⟨by simp, ?_⟩
      rw [hsame]
  | fails h =>
    cases h
    exact .inr ⟨by simp, rfl⟩

theorem submitPipeline {p : NewPipeline} {reply : (Call.submitPipeline p).Reply}
    (h : s.Responds registry k (.submitPipeline p) reply s') :
    (∃ id t, reply = .ok (p.toPipeline id t) ∧
      s'.memory = s.memory.addPipeline (p.toPipeline id t) ∧ s'.agenda = s.agenda) ∨
      (∃ e, reply = .error e) ∧ s' = s := by
  cases h with
  | answers chance h =>
    simp only [answer] at h
    split at h
    · cases h
    · cases h
      exact .inl ⟨_, _, rfl, rfl, rfl⟩
  | fails h =>
    cases h with
    | submitPipeline e => exact .inr ⟨⟨e, rfl⟩, rfl⟩

end Responds

/-! ## The states that are reached -/

/-- The agenda is consistent, and every blueprint is stored under its own identifier, which is in
use. -/
structure Sound (s : Shared) : Prop where
  consistent : s.agenda.Consistent
  keyed : ∀ id b, s.memory.findBlueprint id = some b → b.id = id
  issued : ∀ id b, s.memory.findBlueprint id = some b → id ∈ s.issued

/-- The states that come about by calls of any requests in any order, with any failures, by the
timer, and by new projects and settings. Only blueprints whose identifiers are in use are saved. -/
inductive Reached (registry : Registry) : Shared → Prop
  | start {s : Shared} (h : System.Initial { shared := s }) : Reached registry s
  | call {s s' : Shared} {k : Nat} {c : Call} {reply : c.Reply} (hs : Reached registry s)
      (hissued : ∀ b, c = .saveBlueprint b → b.id ∈ s.issued)
      (h : s.Responds registry k c reply s') : Reached registry s'
  | tick {s : Shared} (hs : Reached registry s) (now : Instant) :
      Reached registry { s with clock := now, agenda := (s.agenda.wake now).2 }
  | addProject {s : Shared} (hs : Reached registry s) (p : Project) :
      Reached registry { s with memory := s.memory.addProject p }
  | putMetric {s : Shared} (hs : Reached registry s) (m : MetricSetting) :
      Reached registry { s with memory := s.memory.putMetric m }

variable {registry : Registry} {k : Nat} {s s' : Shared}

theorem Responds.consistent {c : Call} {reply : c.Reply} (h : s.Responds registry k c reply s')
    (hs : s.agenda.Consistent) : s'.agenda.Consistent := by
  by_cases hrebuild : ∃ bs, c = .rebuildAgenda bs
  · obtain ⟨bs, rfl⟩ := hrebuild
    obtain ⟨met, -, rfl⟩ := h.rebuildAgenda
    exact Agenda.rebuild_consistent met bs hs
  · cases h with
    | answers chance h =>
      by_cases hstop : c = .stopAgenda
      · subst hstop
        cases h
        exact Agenda.stop_consistent hs
      · have hsame := (answer_frame h).agenda (fun bs hc => hrebuild ⟨bs, hc⟩) hstop
        rwa [hsame]
    | fails h => exact hs
    | rebuilds met => exact absurd ⟨_, rfl⟩ hrebuild

/-- What is stored after a call was stored before, or has just been saved. -/
theorem Responds.stored_cases {c : Call} {reply : c.Reply} (h : s.Responds registry k c reply s')
    {id : Uuid} {b : Blueprint} (hb : s'.memory.findBlueprint id = some b) :
    s.memory.findBlueprint id = some b ∨ c = .saveBlueprint b ∧ b.id = id := by
  cases hw : c.isWrite with
  | false =>
    have hsame : s'.memory.blueprints = s.memory.blueprints := by
      cases h with
      | answers chance h => exact (answer_frame h).blueprints hw
      | fails h => rfl
      | rebuilds met => rfl
    rw [Memory.findBlueprint, hsame] at hb
    exact .inl hb
  | true =>
    cases c with
    | saveBlueprint b' =>
      cases reply with
      | error e =>
        rw [h.saveBlueprint_error] at hb
        exact .inl hb
      | ok u =>
        rw [h.saveBlueprint_ok, Memory.findBlueprint, Table.find?_insert] at hb
        split at hb
        · next hid =>
          cases hb
          exact .inr ⟨rfl, hid.symm⟩
        · exact .inl hb
    | deleteBlueprint id' =>
      rcases h.deleteBlueprint with ⟨b', -, -, rfl⟩ | ⟨-, rfl⟩
      · rw [Memory.findBlueprint, Memory.deleteBlueprint, Table.find?_erase] at hb
        split at hb
        · cases hb
        · exact .inl hb
      · exact .inl hb
    | _ => cases hw

theorem Responds.issued {c : Call} {reply : c.Reply} (h : s.Responds registry k c reply s')
    {id : Uuid} (hid : id ∈ s.issued) : id ∈ s'.issued := by
  cases h with
  | answers chance h => exact (answer_frame h).issued id hid
  | fails h => exact hid
  | rebuilds met => exact hid

theorem Reached.sound (h : Reached registry s) : s.Sound := by
  induction h with
  | start h => exact ⟨h.agenda ▸ Agenda.consistent_empty, h.keyed, h.issued⟩
  | call hs hissued h ih =>
    refine ⟨h.consistent ih.consistent, ?_, ?_⟩
    · intro id b hb
      rcases h.stored_cases hb with hb | ⟨-, hid⟩
      · exact ih.keyed id b hb
      · exact hid
    · intro id b hb
      rcases h.stored_cases hb with hb | ⟨hc, rfl⟩
      · exact h.issued (ih.issued id b hb)
      · exact h.issued (hissued b hc)
  | tick hs now ih => exact ⟨Agenda.wake_consistent ih.consistent now, ih.keyed, ih.issued⟩
  | addProject hs p ih => exact ⟨ih.consistent, ih.keyed, ih.issued⟩
  | putMetric hs m ih => exact ⟨ih.consistent, ih.keyed, ih.issued⟩

/-! ## Requests lead to states that are reached -/

/-- The identifier that a command has come to by its stage is in use. -/
def IssuedAt (s : Shared) : RecordStage → Prop
  | .start | .refused | .written => True
  | .named id => id ∈ s.issued
  | .read b | .drafted b => b.id ∈ s.issued

theorem IssuedAt.of_responds {stage : RecordStage} {c : Call} {reply : c.Reply}
    (hissued : s.IssuedAt stage) (h : s.Responds registry k c reply s') : s'.IssuedAt stage := by
  cases stage with
  | named id => exact h.issued hissued
  | read b => exact h.issued hissued
  | drafted b => exact h.issued hissued
  | _ => trivial

/-- A call by which a command gets on with its blueprint leads to a state that is reached. -/
theorem Reached.next {command : Command} {stage stage' : RecordStage} {c : Call} {reply : c.Reply}
    (hs : Reached registry s) (h : s.Responds registry k c reply s')
    (hnext : RecordStage.Next (fun _ _ => True) command stage c reply stage')
    (hissued : s.IssuedAt stage) : Reached registry s' ∧ s'.IssuedAt stage' := by
  constructor
  · cases hnext with
    | save hpasses =>
      refine .call hs ?_ h
      rintro _ ⟨⟩
      rw [hpasses.toCompletes.id_eq]
      exact hissued
    | refuse =>
      rw [h.saveBlueprint_error]
      exact hs
    | other hwrite =>
      refine .call hs ?_ h
      rintro b rfl
      cases hwrite
    | _ => exact .call hs (by rintro b ⟨⟩) h
  · cases hnext with
    | name => exact h.freshId.2.2.2
    | draft => exact h.issued hissued
    | @read id p b =>
      obtain ⟨rfl, hfound⟩ := h.findBlueprint
      have hstored := hfound b rfl
      rw [IssuedAt, hs.sound.keyed id b hstored]
      exact hs.sound.issued id b hstored
    | change => exact h.issued hissued
    | other => exact hissued.of_responds h
    | _ => trivial

theorem Reached.of_obeys {α : Type} {p : Program α} {command : Command} {stage : RecordStage}
    {post : RecordStage → α → Prop} {a : α} (hs : Reached registry s)
    (hobeys : p.Obeys (command.record fun _ _ => True) stage post) (hissued : s.IssuedAt stage)
    (h : Performs registry k p s a s') : Reached registry s' := by
  induction h generalizing stage with
  | done => exact hs
  | call h hrest ih =>
    obtain ⟨stage', hnext, hobeys'⟩ := hobeys _ trivial
    obtain ⟨hs', hissued'⟩ := hs.next h hnext hissued
    exact ih hs' hobeys' hissued'

/-- A request leads from a state that is reached to another one, whatever calls of it fail. -/
theorem Reached.performs {c : Command} {result : Except RequestError c.Value}
    (hs : Reached registry s) (h : Performs registry k c.program s result s') :
    Reached registry s' :=
  hs.of_obeys c.obeys_record trivial h

end Shared

namespace Run

variable {registry : Registry}

/-- Requests side by side, none of whose calls fails, only lead to states that are reached. -/
theorem reached (r : Run registry) (i : Nat) : Shared.Reached registry (r.state i).shared := by
  induction i with
  | zero =>
    have hinitial := r.initial
    exact .start ⟨rfl, hinitial.agenda, hinitial.holder, hinitial.keyed, hinitial.issued⟩
  | succ i ih =>
    have h := r.step i
    cases ha : r.action i with
    | proceed k chance =>
      obtain ⟨c, reply, he⟩ := exchanges_of_proceed ha
      obtain ⟨chance', hanswer⟩ := he.exists_answer
      by_cases hfailed : ∃ b e, (⟨c, reply⟩ : (c : Call) × c.Reply) = ⟨.saveBlueprint b, .error e⟩
      · obtain ⟨b, e, hcall⟩ := hfailed
        cases hcall
        rw [(Shared.answer_save_error hanswer).2.2]
        exact ih
      · refine .call ih ?_ (.answers chance' hanswer)
        rintro b rfl
        cases reply with
        | ok u => exact he.save_issued
        | error e => exact absurd ⟨b, e, rfl⟩ hfailed
    | idle =>
      rw [ha] at h
      rw [← Option.some.inj h]
      exact ih
    | arrive c =>
      rw [ha] at h
      rw [← Option.some.inj h]
      exact ih
    | tick now =>
      rw [ha] at h
      rw [← Option.some.inj h]
      exact .tick ih now
    | addProject p =>
      rw [ha] at h
      rw [← Option.some.inj h]
      exact .addProject ih p
    | putMetric m =>
      rw [ha] at h
      rw [← Option.some.inj h]
      exact .putMetric ih m

end Run

end Ingestion
