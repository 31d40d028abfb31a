import Mathlib
import Ingestion.Proofs.Concurrent.Admission

/-!
# Creating while a project is contested

A create asks twice who owns its project: when its blueprint is validated, and again if the store
refuses the blueprint. While nobody can own the project but a given blueprint, or nobody at all, a
create that is valid otherwise comes to one of two ends: the conflict with this owner, or a
blueprint that is stored (`Contender.Ends`). Every such create obeys the protocol of its contest
(`Command.create_obeys_contest`).

A program that obeys a protocol can be carried on to its end where all of its calls are answered
(`Program.Obeys.perform_of_served`).
-/

namespace Ingestion

open Program (Obeys)

/-! ## The contest for a project -/

/-- In a store the project is there, and nobody owns it but `owner`, if anyone does. The settings of
metrics are those of the store `m₀`. -/
structure Memory.Contested (m₀ : Memory) (project : String) (owner : Option Blueprint)
    (m : Memory) : Prop where
  found : ∃ p, m.findProject project = some p
  owned : ∀ o, m.findOwner project = some o → owner = some o
  metrics : m.metrics = m₀.metrics

/-- How far a create has come that contends for a project. -/
inductive Contender where
  | arrived
  /-- An identifier has been drawn for the new blueprint. -/
  | named (id : Uuid)
  /-- The store has refused the blueprint of this identifier. -/
  | refused (id : Uuid)
  | stored (b : Blueprint)
  /-- The blueprint is stored, and the agenda is held to be rebuilt. -/
  | holding (b : Blueprint)
  /-- The store has refused the blueprint, but does not show another owner. -/
  | mistaken

namespace Contender

/-- The calls with which a create gets on in the contest for a project. -/
inductive Next (project : String) : Contender → (c : Call) → c.Reply → Contender → Prop
  | name {id : Uuid} : Next project .arrived .freshId id (.named id)
  | time {id : Uuid} {t : Instant} : Next project (.named id) .now t (.named id)
  | look {id : Uuid} {c : Call} {reply : c.Reply} (h : c.isLookup = true) :
      Next project (.named id) c reply (.named id)
  | save {b : Blueprint} (h : b.projectName = project) :
      Next project (.named b.id) (.saveBlueprint b) (.ok ()) (.stored b)
  | refuse {b : Blueprint} {e : StoreError} (h : b.projectName = project) :
      Next project (.named b.id) (.saveBlueprint b) (.error e) (.refused b.id)
  | concede {id : Uuid} {o : Blueprint} (h : o.id ≠ id) :
      Next project (.refused id) (.findOwner project) (.ok (some o)) (.refused id)
  | err {id : Uuid} {reply : (Call.findOwner project).Reply}
      (h : ∀ o, reply = .ok (some o) → o.id = id) :
      Next project (.refused id) (.findOwner project) reply .mistaken
  | lock {b : Blueprint} : Next project (.stored b) .lockAgenda () (.holding b)
  | fetch {b : Blueprint} {q : Query} {reply : (Call.findBlueprints q).Reply} :
      Next project (.holding b) (.findBlueprints q) reply (.holding b)
  | rebuild {b : Blueprint} {bs : List Blueprint} {reply : (Call.rebuildAgenda bs).Reply} :
      Next project (.holding b) (.rebuildAgenda bs) reply (.holding b)
  | unlock {b : Blueprint} : Next project (.holding b) .unlockAgenda () (.stored b)

/-- Whether the blueprint of the contender is stored. -/
def hasStored : Contender → Bool
  | .stored _ | .holding _ => true
  | _ => false

/-- How a contender ends: with the conflict with the owner, or with a stored blueprint. -/
def Ends (project : String) (owner : Option Blueprint) :
    Contender → Except RequestError Blueprint → Prop
  | .arrived, _ | .holding _, _ => False
  | .named _, r | .refused _, r =>
    ∃ o, owner = some o ∧ r = .error (.projectConflict project o.id o.name)
  | .stored b, r => b.projectName = project ∧ (r = .ok b ∨ ∃ e, r = .error (.reload e))
  | .mistaken, _ => True

end Contender

/-- The protocol of a create in the contest for a project. To all calls but those for the agenda it
reckons with the replies of stores in which the project is contested. -/
def contest (registry : Registry) (m₀ : Memory) (project : String) (owner : Option Blueprint) :
    Protocol Contender where
  Replies c reply := c.isUpkeep = true ∨ ∃ k chance s s',
    m₀.Contested project owner (Shared.memory s) ∧ s.answer registry k chance c = some (reply, s')
  Next := Contender.Next project

/-! ## Replies -/

section Replies

variable {registry : Registry} {m₀ : Memory} {project : String} {owner : Option Blueprint}

theorem contest_ignores (id : Uuid) :
    (contest registry m₀ project owner).Ignores (.named id) Call.isLookup :=
  fun _ h _ => .look h

theorem contest_findProject {reply : (Call.findProject project).Reply}
    (h : (contest registry m₀ project owner).Replies (.findProject project) reply) :
    ∃ p, reply = .ok (some p) := by
  obtain ⟨⟨⟩⟩ | ⟨k, chance, s, s', hs, hanswer⟩ := h
  obtain ⟨p, hp⟩ := hs.found
  cases hanswer
  exact ⟨p, congrArg Except.ok hp⟩

theorem contest_findOwner {reply : (Call.findOwner project).Reply}
    (h : (contest registry m₀ project owner).Replies (.findOwner project) reply) :
    reply = .ok none ∨ ∃ o, owner = some o ∧ reply = .ok (some o) := by
  obtain ⟨⟨⟩⟩ | ⟨k, chance, s, s', hs, hanswer⟩ := h
  cases hanswer
  cases ho : s.memory.findOwner project with
  | none => exact .inl rfl
  | some o => exact .inr ⟨o, hs.owned o ho, rfl⟩

theorem contest_findMetrics {name : String} {reply : (Call.findMetrics name).Reply}
    (h : (contest registry m₀ project owner).Replies (.findMetrics name) reply) :
    reply = .ok (m₀.findMetrics name) := by
  obtain ⟨⟨⟩⟩ | ⟨k, chance, s, s', hs, hanswer⟩ := h
  cases hanswer
  rw [Memory.findMetrics, hs.metrics]
  rfl

theorem contest_generatePlan {request : PlanRequest} {reply : (Call.generatePlan request).Reply}
    (h : (contest registry m₀ project owner).Replies (.generatePlan request) reply) :
    reply = registry.generate request := by
  obtain ⟨⟨⟩⟩ | ⟨k, chance, s, s', hs, hanswer⟩ := h
  cases hanswer
  rfl

theorem contest_save_error {b : Blueprint} {e : StoreError}
    (h : (contest registry m₀ project owner).Replies (.saveBlueprint b) (.error e)) :
    e = Memory.taken b := by
  obtain ⟨⟨⟩⟩ | ⟨k, chance, s, s', hs, hanswer⟩ := h
  exact (Shared.answer_save_error hanswer).2.1

end Replies

/-! ## The parts of a create -/

section Parts

variable {σ : Type} {P : Protocol σ} {s : σ} {registry : Registry} {m : Memory}

/-- Where the replies to lookups are those of a store, the plan is the one that is composed with the
settings of the store. -/
theorem Blueprint.composePlan_obeys_composed (b : Blueprint) (policy : SyncPolicy)
    (h : P.Ignores s Call.isLookup)
    (hmetrics : ∀ reply, P.Replies (.findMetrics b.projectName) reply →
      reply = .ok (m.findMetrics b.projectName))
    (hgenerate : ∀ request reply, P.Replies (.generatePlan request) reply →
      reply = registry.generate request) :
    (b.composePlan policy).Obeys P s fun s' r =>
      s' = s ∧ r = b.composedPlan registry policy (b.settingsIn m) := by
  have hsettings : b.metrics.Obeys P s fun s' r => s' = s ∧ r = .ok (b.settingsIn m) := by
    unfold metrics settingsIn
    split
    · refine (Obeys.ask_ignored h rfl).mono ?_
      rintro s' reply ⟨rfl, hreply⟩
      exact ⟨rfl, hmetrics reply hreply⟩
    · exact Obeys.done ⟨rfl, rfl⟩
  unfold composePlan composedPlan
  refine hsettings.bind ?_
  rintro s' _ ⟨rfl, rfl⟩
  refine (Obeys.ask_ignored h rfl).bind ?_
  rintro s'' reply ⟨rfl, hreply⟩
  rw [hgenerate _ reply hreply]
  cases registry.generate (b.planRequest policy (b.settingsIn m)) with
  | error e => exact Obeys.done ⟨rfl, rfl⟩
  | ok generated => exact Obeys.done ⟨rfl, rfl⟩

theorem Blueprint.withPlan_obeys_planned (b : Blueprint) (h : P.Ignores s Call.isLookup)
    (hmetrics : ∀ reply, P.Replies (.findMetrics b.projectName) reply →
      reply = .ok (m.findMetrics b.projectName))
    (hgenerate : ∀ request reply, P.Replies (.generatePlan request) reply →
      reply = registry.generate request) :
    b.withPlan.run.Obeys P s fun s' r => s' = s ∧ r = b.planned registry (b.settingsIn m) := by
  unfold withPlan planned
  cases b.mode with
  | advanced =>
    dsimp only
    split
    · exact Obeys.throw ⟨rfl, rfl⟩
    · exact Obeys.pure ⟨rfl, rfl⟩
  | normal =>
    have hplan := b.composePlan_obeys_composed b.syncPolicy h hmetrics hgenerate
    dsimp only
    refine Obeys.andThen (Q := fun s' r => s' = s ∧
        r = (b.composedPlan registry b.syncPolicy (b.settingsIn m)).mapError (.plan b.id b.name))
      (Obeys.lift (hplan.mono ?_)) ?_ ?_
    · rintro s' r ⟨rfl, rfl⟩
      exact ⟨rfl, rfl⟩
    · rintro s' plan ⟨rfl, hr⟩
      rw [← hr]
      exact Obeys.pure ⟨rfl, rfl⟩
    · rintro s' e ⟨rfl, hr⟩
      rw [← hr]
      exact ⟨rfl, rfl⟩

end Parts

section Creating

variable {registry : Registry} {m₀ : Memory} {owner : Option Blueprint} {b : Blueprint}

/-- A contender passes the check of its project, or meets the owner. -/
theorem Blueprint.checkProject_obeys_contest (hproject : b.hasProject = true) (id : Uuid) :
    b.checkProject.run.Obeys (contest registry m₀ b.projectName owner) (.named id) fun s r =>
      s = .named id ∧
        (r = .ok () ∨ ∃ o, owner = some o ∧
          r = .error (.projectConflict b.projectName o.id o.name)) := by
  unfold checkProject
  rw [if_pos hproject]
  refine Obeys.andThen (Q := fun s r => s = .named id ∧ ∃ p, r = .ok (some p))
    (Obeys.store ((Obeys.ask_ignored (contest_ignores id) rfl).mono ?_)) ?_
    (by rintro s e ⟨-, p, ⟨⟩⟩)
  · rintro s reply ⟨rfl, hreply⟩
    obtain ⟨p, rfl⟩ := contest_findProject hreply
    exact ⟨rfl, p, rfl⟩
  rintro s _ ⟨rfl, p, ⟨⟩⟩
  refine Obeys.andThen (Q := fun s r => s = .named id ∧
      (r = .ok none ∨ ∃ o, owner = some o ∧ r = .ok (some o)))
    (Obeys.store ((Obeys.ask_ignored (contest_ignores id) rfl).mono ?_)) ?_
    (by rintro s e ⟨-, h | ⟨o, -, h⟩⟩ <;> cases h)
  · rintro s reply ⟨rfl, hreply⟩
    rcases contest_findOwner hreply with rfl | ⟨o, ho, rfl⟩
    · exact ⟨rfl, .inl rfl⟩
    · exact ⟨rfl, .inr ⟨o, ho, rfl⟩⟩
  rintro s found ⟨rfl, h | ⟨o, ho, h⟩⟩
  · cases h
    exact Obeys.pure ⟨rfl, .inl rfl⟩
  · cases h
    dsimp only
    split
    · exact Obeys.throw ⟨rfl, .inr ⟨o, ho, rfl⟩⟩
    · exact Obeys.pure ⟨rfl, .inl rfl⟩

/-- A blueprint that obeys the rules in the store passes validation, or meets the owner. -/
theorem Blueprint.validated_obeys_contest (h : b.Admissible registry m₀)
    (hproject : b.hasProject = true) (id : Uuid) :
    b.validated.run.Obeys (contest registry m₀ b.projectName owner) (.named id) fun s r =>
      s = .named id ∧
        ((∃ b', r = .ok b' ∧ b'.id = b.id ∧ b'.projectName = b.projectName) ∨
          ∃ o, owner = some o ∧ r = .error (.projectConflict b.projectName o.id o.name)) := by
  obtain ⟨⟨⟩, hform⟩ := h.exists_ok checkForm_tells
  obtain ⟨⟨⟩, hcron⟩ := h.exists_ok checkCron_tells
  obtain ⟨b', hplanned⟩ := h.exists_ok planned_tells
  obtain ⟨hfields, -⟩ := planned_eq_ok hplanned
  have hvalidation : b.validation.Obeys (contest registry m₀ b.projectName owner) (.named id)
      fun s r => s = .named id ∧ (r = (.ok (), b') ∨ ∃ o, owner = some o ∧
        r.1 = .error (.projectConflict b.projectName o.id o.name)) := by
    unfold validation
    rw [hform]
    dsimp only
    refine (b.checkProject_obeys_contest hproject id).bind ?_
    rintro s r ⟨rfl, rfl | ⟨o, ho, rfl⟩⟩
    · dsimp only
      rw [hcron]
      dsimp only
      refine (b.normalized.withPlan_obeys_planned (contest_ignores id)
        (fun _ => contest_findMetrics) fun _ _ => contest_generatePlan).bind ?_
      rintro s _ ⟨rfl, rfl⟩
      rw [hplanned]
      exact Obeys.done ⟨rfl, .inl rfl⟩
    · exact Obeys.done ⟨rfl, .inr ⟨o, ho, rfl⟩⟩
  unfold validated
  refine hvalidation.bind ?_
  rintro s ⟨r, b''⟩ ⟨rfl, hr | ⟨o, ho, rfl⟩⟩
  · cases hr
    refine Obeys.done ⟨rfl, .inl ⟨b', rfl, ?_⟩⟩
    rw [hfields]
    exact ⟨rfl, rfl⟩
  · exact Obeys.done ⟨rfl, .inr ⟨o, ho, rfl⟩⟩

/-- A contender whose blueprint is refused meets the owner, unless the store shows no other one. -/
theorem Service.refusal_obeys_contest (b : Blueprint) (detail : String) :
    (refusal b detail).run.Obeys (contest registry m₀ b.projectName owner) (.refused b.id)
      fun s r => (s = .mistaken ∧ ∃ e, r = .error e) ∨
        (s = .refused b.id ∧ ∃ o, owner = some o ∧
          r = .error (.projectConflict b.projectName o.id o.name)) := by
  unfold refusal
  refine Obeys.andThen (Q := fun s r => s = .mistaken ∨ (s = .refused b.id ∧
      ∃ o, owner = some o ∧ o.id ≠ b.id ∧ r = .ok (some o)))
    (Obeys.store (Obeys.ask ?_)) ?_ ?_
  · intro reply hreply
    rcases contest_findOwner hreply with rfl | ⟨o, ho, rfl⟩
    · exact ⟨_, .err (by rintro o ⟨⟩), .inl rfl⟩
    · by_cases hid : o.id = b.id
      · refine ⟨_, .err ?_, .inl rfl⟩
        rintro _ ⟨⟩
        exact hid
      · exact ⟨_, .concede hid, .inr ⟨rfl, o, ho, hid, rfl⟩⟩
  · rintro s found (rfl | ⟨rfl, o, ho, hid, ⟨⟩⟩)
    · cases found with
      | none => exact Obeys.throw (.inl ⟨rfl, _, rfl⟩)
      | some o =>
        dsimp only
        split
        · exact Obeys.throw (.inl ⟨rfl, _, rfl⟩)
        · exact Obeys.throw (.inl ⟨rfl, _, rfl⟩)
    · dsimp only
      rw [if_pos hid]
      exact Obeys.throw (.inr ⟨rfl, o, ho, rfl⟩)
  · rintro s e (rfl | ⟨rfl, o, -, -, ⟨⟩⟩)
    exact .inl ⟨rfl, e, rfl⟩

/-- A contender that saves its blueprint stores it, or meets the owner. -/
theorem Service.save_obeys_contest (b : Blueprint) :
    (save b).run.Obeys (contest registry m₀ b.projectName owner) (.named b.id) fun s r =>
      (s = .stored b ∧ r = .ok ()) ∨ (s = .mistaken ∧ ∃ e, r = .error e) ∨
        (s = .refused b.id ∧ ∃ o, owner = some o ∧
          r = .error (.projectConflict b.projectName o.id o.name)) := by
  unfold save
  refine Obeys.andThen (Q := fun s r => (s = .stored b ∧ r = .ok (.ok ())) ∨
      (s = .refused b.id ∧ r = .ok (.error (Memory.taken b))))
    (Obeys.always (Obeys.ask ?_)) ?_ (by rintro s e (⟨-, ⟨⟩⟩ | ⟨-, ⟨⟩⟩))
  · rintro (e | ⟨⟩) hreply
    · rw [contest_save_error hreply]
      exact ⟨_, .refuse rfl, .inr ⟨rfl, rfl⟩⟩
    · exact ⟨_, .save rfl, .inl ⟨rfl, rfl⟩⟩
  rintro s _ (⟨rfl, ⟨⟩⟩ | ⟨rfl, ⟨⟩⟩)
  · exact Obeys.pure (.inl ⟨rfl, rfl⟩)
  -- The store refuses a blueprint by the violation of a constraint, so the owner is looked up.
  · exact (Service.refusal_obeys_contest b _).mono fun _ _ => .inr

theorem Service.holdingAgenda_obeys_contest {α : Type} {p : Program α} {project : String}
    {b : Blueprint}
    (hp : p.Obeys (contest registry m₀ project owner) (.holding b) fun s _ => s = .holding b) :
    (holdingAgenda p).Obeys (contest registry m₀ project owner) (.stored b)
      fun s _ => s = .stored b := by
  unfold holdingAgenda
  refine Obeys.bind (Q := fun s _ => s = .holding b) (Obeys.ask fun _ _ => ⟨_, .lock, rfl⟩) ?_
  rintro s _ rfl
  refine hp.bind ?_
  rintro s a rfl
  refine Obeys.bind (Q := fun s _ => s = .stored b) (Obeys.ask fun _ _ => ⟨_, .unlock, rfl⟩) ?_
  rintro s _ rfl
  exact Obeys.done rfl

/-- A contender that has stored its blueprint rebuilds the agenda. -/
theorem Service.reload_obeys_contest {project : String} (b : Blueprint) :
    reload.run.Obeys (contest registry m₀ project owner) (.stored b) fun s r =>
      s = .stored b ∧ ∀ e, r = .error e → ∃ source, e = .reload source := by
  have hreconcile : reconcile.run.Obeys (contest registry m₀ project owner) (.stored b)
      fun s _ => s = .stored b := by
    unfold reconcile
    refine holdingAgenda_obeys_contest ?_
    refine Obeys.bind (Q := fun s _ => s = .holding b) (Obeys.ask fun _ _ => ⟨_, .fetch, rfl⟩) ?_
    rintro s (e | ⟨bs, n⟩) rfl
    · exact Obeys.done rfl
    · exact Obeys.ask fun _ _ => ⟨_, .rebuild, rfl⟩
  unfold reload
  refine hreconcile.bind ?_
  rintro s (e | n) rfl
  · refine Obeys.done ⟨rfl, ?_⟩
    rintro _ ⟨⟩
    exact ⟨e, rfl⟩
  · exact Obeys.done ⟨rfl, by rintro e ⟨⟩⟩

/-- A create whose blueprint obeys the rules in the store, whatever its identifier and the time are,
obeys the protocol of the contest for its project. -/
theorem Command.create_obeys_contest {d : Draft} (hproject : d.projectName ≠ "")
    (hvalid : ∀ id t, (d.toBlueprint id t).Admissible registry m₀) :
    (create d).program.Obeys (contest registry m₀ d.projectName owner) .arrived
      (Contender.Ends d.projectName owner) := by
  change (Service.create d).run.Obeys _ _ _
  unfold Service.create
  refine Obeys.andThen (Q := fun s r => ∃ id, r = .ok id ∧ s = .named id)
    (Obeys.always (Obeys.ask fun id _ => ⟨_, .name, id, rfl, rfl⟩)) ?_ (by rintro s e ⟨id, ⟨⟩, -⟩)
  rintro s id ⟨_, ⟨⟩, rfl⟩
  refine Obeys.andThen (Q := fun s r => ∃ t, r = .ok t ∧ s = .named id)
    (Obeys.always (Obeys.ask fun t _ => ⟨_, .time, t, rfl, rfl⟩)) ?_ (by rintro s e ⟨t, ⟨⟩, -⟩)
  rintro s t ⟨_, ⟨⟩, rfl⟩
  refine Obeys.andThen
    (Blueprint.validated_obeys_contest (hvalid id t) (bne_iff_ne.2 hproject) id) ?_ ?_
  · rintro s b ⟨rfl, ⟨_, ⟨⟩, hid, hname⟩ | ⟨o, -, ⟨⟩⟩⟩
    have hid : b.id = id := hid
    have hname : b.projectName = d.projectName := hname
    rw [← hid, ← hname]
    refine Obeys.andThen (Service.save_obeys_contest b) ?_ ?_
    · rintro s ⟨⟩ (⟨rfl, -⟩ | ⟨-, e, ⟨⟩⟩ | ⟨-, o, -, ⟨⟩⟩)
      refine Obeys.andThen (Service.reload_obeys_contest b) ?_ ?_
      · rintro s _ ⟨rfl, -⟩
        exact Obeys.pure ⟨rfl, .inl rfl⟩
      · rintro s e ⟨rfl, he⟩
        obtain ⟨source, rfl⟩ := he e rfl
        exact ⟨rfl, .inr ⟨source, rfl⟩⟩
    · rintro s e (⟨-, ⟨⟩⟩ | ⟨rfl, -⟩ | ⟨rfl, o, ho, ⟨⟩⟩)
      · exact trivial
      · exact ⟨o, ho, rfl⟩
  · rintro s e ⟨rfl, ⟨_, ⟨⟩, -⟩ | h⟩
    exact h

end Creating

/-! ## Carrying on -/

namespace Shared

variable {registry : Registry} {k : Nat} {chance : Chance} {s s' : Shared} {c : Call}

/-- A call is not answered if it draws an identifier that is in use, or has to wait for the
agenda. -/
theorem answer_eq_none (h : s.answer registry k chance c = none) :
    ((∃ p, c = .submitPipeline p) ∨ c = .freshId) ∧ chance.id ∈ s.issued ∨
      c = .lockAgenda ∧ s.holder ≠ none := by
  cases c with
  | submitPipeline p =>
    simp only [answer, ite_eq_left_iff, reduceCtorEq, imp_false, not_not] at h
    exact .inl ⟨.inl ⟨p, rfl⟩, h⟩
  | freshId =>
    simp only [answer, ite_eq_left_iff, reduceCtorEq, imp_false, not_not] at h
    exact .inl ⟨.inr rfl, h⟩
  | lockAgenda =>
    simp only [answer, ite_eq_right_iff, reduceCtorEq, imp_false] at h
    exact .inr ⟨rfl, h⟩
  | saveBlueprint b =>
    simp only [answer] at h
    split at h
    · cases h
    · cases h
  | _ => cases h

/-- Up to the save of its blueprint a contender changes neither the store nor the agenda. -/
theorem answer_of_not_hasStored {project : String} {stage stage' : Contender} {reply : c.Reply}
    (hnext : Contender.Next project stage c reply stage') (hstage' : stage'.hasStored = false)
    (h : s.answer registry k chance c = some (reply, s')) :
    s'.memory = s.memory ∧ s'.agenda = s.agenda := by
  cases hnext with
  | name =>
    simp only [answer] at h
    split at h
    · cases h
    · cases h
      exact ⟨rfl, rfl⟩
  | time | concede | err =>
    obtain rfl := (Prod.mk.inj (Option.some.inj h)).2
    exact ⟨rfl, rfl⟩
  | look hlookup =>
    rw [answer_lookup hlookup h]
    exact ⟨rfl, rfl⟩
  | refuse =>
    obtain ⟨-, -, rfl⟩ := answer_save_error h
    exact ⟨rfl, rfl⟩
  | _ => cases hstage'

end Shared

/-- The protocol allows a call at a stage, whatever its reply is. -/
def Protocol.Allows {σ : Type} (P : Protocol σ) (stage : σ) (c : Call) : Prop :=
  ∀ reply, P.Replies c reply → ∃ stage', P.Next stage c reply stage'

/-- While `I` holds of the stage of a request and of what is shared, every call that is allowed is
answered as the protocol reckons with, and `I` goes on to hold. -/
structure Protocol.Served {σ : Type} (P : Protocol σ) (registry : Registry) (k : Nat)
    (chance : Chance) (I : σ → Shared → Prop) : Prop where
  ready : ∀ stage s c, I stage s → P.Allows stage c → s.answer registry k chance c ≠ none
  replies : ∀ stage s c reply s', I stage s → P.Allows stage c →
    s.answer registry k chance c = some (reply, s') → P.Replies c reply
  keeps : ∀ stage s c reply s' stage', I stage s →
    s.answer registry k chance c = some (reply, s') → P.Next stage c reply stage' → I stage' s'

/-- A program that obeys a protocol is carried on to its end where its calls are served. -/
theorem Program.Obeys.perform_of_served {σ α : Type} {P : Protocol σ} {registry : Registry}
    {k : Nat} {chance : Chance} {I : σ → Shared → Prop} {p : Program α} {post : σ → α → Prop}
    {stage : σ} {s : Shared} (h : p.Obeys P stage post) (hserved : P.Served registry k chance I)
    (hs : I stage s) : ∃ a stage' s', Shared.perform registry k chance p s = some (a, s') ∧
      post stage' a ∧ I stage' s' := by
  induction p generalizing stage s with
  | done a => exact ⟨a, stage, s, rfl, h, hs⟩
  | call c next ih =>
    have hallows : P.Allows stage c := by
      intro reply hreply
      obtain ⟨stage', hnext, -⟩ := h reply hreply
      exact ⟨stage', hnext⟩
    obtain ⟨⟨reply, s₁⟩, hanswer⟩ :=
      Option.ne_none_iff_exists'.1 (hserved.ready stage s c hs hallows)
    obtain ⟨stage₁, hnext, hrest⟩ := h reply (hserved.replies stage s c reply s₁ hs hallows hanswer)
    obtain ⟨a, stage', s', hperform, hpost⟩ :=
      ih reply hrest (hserved.keeps stage s c reply s₁ stage₁ hs hanswer hnext)
    refine ⟨a, stage', s', ?_, hpost⟩
    show (s.answer registry k chance c).bind _ = _
    rw [hanswer]
    exact hperform

/-- How what is shared has changed since `s₀` for a contender that alone has been carried on, if
`fresh` is the identifier that it draws. -/
inductive Contender.Carried (owner : Option Blueprint) (fresh : Uuid) (s₀ : Shared) :
    Contender → Shared → Prop
  | arrived (hfresh : fresh ∉ s₀.issued) : Carried owner fresh s₀ .arrived s₀
  | named {id : Uuid} {issued : List Uuid} (hother : ∀ o, owner = some o → o.id ≠ id) :
      Carried owner fresh s₀ (.named id) { s₀ with issued }
  | refused {id : Uuid} {issued : List Uuid} {o : Blueprint} (ho : owner = some o)
      (hother : o.id ≠ id) : Carried owner fresh s₀ (.refused id) { s₀ with issued }
  | stored {b : Blueprint} {s : Shared} (hnone : owner = none)
      (hb : s.memory.blueprints = s₀.memory.blueprints.insert b.id b) (hfree : s.holder = none) :
      Carried owner fresh s₀ (.stored b) s
  | holding {b : Blueprint} {s : Shared} (hnone : owner = none)
      (hb : s.memory.blueprints = s₀.memory.blueprints.insert b.id b) :
      Carried owner fresh s₀ (.holding b) s

section CarryingOn

variable {registry : Registry} {k : Nat} {chance : Chance} {m₀ : Memory} {project : String}
  {owner : Option Blueprint} {s₀ : Shared}

/-- The protocol reckons with some reply to every call. -/
theorem contest_exists_reply (h : m₀.Contested project owner s₀.memory) (c : Call) :
    ∃ reply, (contest registry m₀ project owner).Replies c reply := by
  let s : Shared := { s₀ with issued := [], holder := none }
  cases hanswer : s.answer registry 0 { id := .ofNat 0, readings := fun _ => s₀.clock } c with
  | none =>
    rcases Shared.answer_eq_none hanswer with ⟨-, hmem⟩ | ⟨-, hheld⟩
    · cases hmem
    · exact absurd rfl hheld
  | some answered => exact ⟨answered.1, .inr ⟨0, _, s, answered.2, h, hanswer⟩⟩

/-- A call of a contender that alone is carried on keeps to how it goes on: the blueprint is stored
if nobody owns the project, and is refused otherwise. -/
theorem Contender.Carried.next (hproject : project ≠ "")
    (howner : s₀.memory.findOwner project = owner)
    (hissued : ∀ o, owner = some o → o.id ∈ s₀.issued)
    (hfree : owner = none → s₀.holder = none) {stage stage' : Contender} {s s' : Shared} {c : Call}
    {reply : c.Reply} (hs : Carried owner chance.id s₀ stage s)
    (hanswer : s.answer registry k chance c = some (reply, s'))
    (hnext : Next project stage c reply stage') : Carried owner chance.id s₀ stage' s' := by
  cases hnext with
  | name =>
    cases hs with
    | arrived hfresh =>
      rw [Shared.answer, if_neg hfresh] at hanswer
      cases hanswer
      refine .named fun o ho hid => hfresh ?_
      rw [← hid]
      exact hissued o ho
  | time | concede | fetch =>
    obtain rfl := (Prod.mk.inj (Option.some.inj hanswer)).2
    exact hs
  | look hlookup =>
    rw [Shared.answer_lookup hlookup hanswer]
    exact hs
  | @save b hname =>
    cases hs with
    | named hother =>
      obtain ⟨hnot, rfl⟩ := Shared.answer_save hanswer
      cases ho : owner with
      | none => exact .stored rfl rfl (hfree ho)
      | some o =>
        rw [ho, ← hname] at howner
        have htaken := Memory.isTaken_of_findOwner howner (hother o ho)
          (bne_iff_ne.2 (hname ▸ hproject))
        cases hnot.symm.trans htaken
  | @refuse b e hname =>
    cases hs with
    | named hother =>
      obtain ⟨htaken, -, rfl⟩ := Shared.answer_save_error hanswer
      cases ho : owner with
      | none =>
        rw [ho, ← hname] at howner
        cases (Memory.isTaken_of_findOwner_eq_none howner).symm.trans htaken
      | some o => exact .refused rfl (hother o ho)
  | err hsame =>
    cases hs with
    | refused ho hother =>
      cases hanswer
      exact absurd (hsame _ (congrArg Except.ok (howner.trans ho))) hother
  | lock =>
    cases hs with
    | stored hnone hb hfree =>
      rw [Shared.answer, if_pos hfree] at hanswer
      cases hanswer
      exact .holding hnone hb
  | rebuild =>
    cases hs with
    | holding hnone hb =>
      cases hanswer
      exact .holding hnone hb
  | unlock =>
    cases hs with
    | holding hnone hb =>
      cases hanswer
      exact .stored hnone hb rfl

/-- While a contender alone is carried on, its calls are served. -/
theorem contest_served (h : m₀.Contested project owner s₀.memory) (hproject : project ≠ "")
    (howner : s₀.memory.findOwner project = owner)
    (hissued : ∀ o, owner = some o → o.id ∈ s₀.issued)
    (hfree : owner = none → s₀.holder = none) :
    (contest registry m₀ project owner).Served registry k chance
      (Contender.Carried owner chance.id s₀) := by
  have hallowed {stage : Contender} {c : Call}
      (hallows : (contest registry m₀ project owner).Allows stage c) :
      ∃ reply stage', Contender.Next project stage c reply stage' := by
    have hreply : ∃ reply, (contest registry m₀ project owner).Replies c reply :=
      contest_exists_reply h c
    obtain ⟨reply, hreply⟩ := hreply
    exact ⟨reply, hallows reply hreply⟩
  refine ⟨fun stage s c hs hallows hnone => ?_, fun stage s c reply s' hs hallows hanswer => ?_,
    fun stage s c reply s' stage' hs hanswer hnext =>
      hs.next hproject howner hissued hfree hanswer hnext⟩
  · -- An identifier is drawn while it is fresh, and the agenda is asked for while it is free.
    obtain ⟨reply, stage', hnext⟩ := hallowed hallows
    rcases Shared.answer_eq_none hnone with ⟨⟨p, rfl⟩ | rfl, hmem⟩ | ⟨rfl, hheld⟩
    · cases hnext with
      | look hlookup => cases hlookup
    · cases hnext with
      | name =>
        cases hs with
        | arrived hfresh => exact hfresh hmem
      | look hlookup => cases hlookup
    · cases hnext with
      | lock =>
        cases hs with
        | stored _ _ hfree => exact hheld hfree
      | look hlookup => cases hlookup
  · -- Once the blueprint is stored, the agenda is all that is called for.
    obtain ⟨reply', stage', hnext⟩ := hallowed hallows
    cases hs with
    | arrived | named | refused =>
      refine .inr ⟨k, chance, _, s', ?_, hanswer⟩
      exact h
    | stored => cases hnext with
      | lock => exact .inl rfl
    | holding => cases hnext with
      | fetch | rebuild | unlock => exact .inl rfl

end CarryingOn

end Ingestion
