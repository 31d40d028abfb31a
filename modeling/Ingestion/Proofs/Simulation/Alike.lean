import Mathlib
import Ingestion.Proofs.Request.Alike
import Ingestion.Simulation.World

/-!
# Worlds with other failures

Two worlds that differ only in which failures of the store are planned answer every call alike, and
differ in nothing else after it (`Sim.answer_alike`).
-/

namespace Ingestion.Simulation

/-- The same failure is planned, up to its error. -/
structure PlannedFault.Alike (f f' : PlannedFault) : Prop where
  on : f.on = f'.on
  error : f.error.Alike f'.error
  after : f.after = f'.after

/-- Two worlds are the same, up to the errors of the planned failures. -/
inductive World.Alike (w : World) : World → Prop
  | intro {faults : List PlannedFault} (h : List.Forall₂ PlannedFault.Alike w.faults faults) :
      Alike w { w with faults }

/-- Up to the first failure of a function the same ones are planned, and from there on, too. -/
theorem forall₂_split {faults faults' : List PlannedFault}
    (h : List.Forall₂ PlannedFault.Alike faults faults') (f : StoreFunction) :
    List.Forall₂ PlannedFault.Alike (faults.takeWhile (·.on != f))
        (faults'.takeWhile (·.on != f)) ∧
      List.Forall₂ PlannedFault.Alike (faults.dropWhile (·.on != f))
        (faults'.dropWhile (·.on != f)) := by
  induction h with
  | nil => exact ⟨.nil, .nil⟩
  | cons hx hrest ih =>
    rw [List.takeWhile_cons, List.takeWhile_cons, List.dropWhile_cons, List.dropWhile_cons, hx.on]
    split
    · exact ⟨.cons hx ih.1, ih.2⟩
    · exact ⟨.nil, .cons hx hrest⟩

namespace Sim

variable {α β : Type}

/-- In worlds that are alike the results are related, and the worlds stay alike. -/
def Alike (R : α → β → Prop) (p : Sim α) (q : Sim β) : Prop :=
  ∀ w w', World.Alike w w' → R (p w).1 (q w').1 ∧ World.Alike (p w).2 (q w').2

namespace Alike

variable {γ δ : Type} {R : α → β → Prop}

theorem pure {a : α} {b : β} (h : R a b) : Alike R (Pure.pure a) (Pure.pure b) :=
  fun _ _ hw => ⟨h, hw⟩

theorem mono {R' : α → β → Prop} {p : Sim α} {q : Sim β} (h : Alike R p q)
    (himp : ∀ a b, R a b → R' a b) : Alike R' p q := by
  intro w w' hw
  exact ⟨himp _ _ (h w w' hw).1, (h w w' hw).2⟩

theorem bind {p : Sim α} {q : Sim β} {f : α → Sim γ} {g : β → Sim δ} {R' : γ → δ → Prop}
    (h : Alike R p q) (hf : ∀ a b, R a b → Alike R' (f a) (g b)) :
    Alike R' (p >>= f) (q >>= g) := by
  intro w w' hw
  obtain ⟨hr, hnext⟩ := h w w' hw
  exact hf _ _ hr _ _ hnext

/-- What is done with the world that is there. -/
theorem ofGet {f : World → Sim γ} {g : World → Sim δ} {R' : γ → δ → Prop}
    (h : ∀ w faults, List.Forall₂ PlannedFault.Alike w.faults faults →
      Alike R' (f w) (g { w with faults })) : Alike R' (get >>= f) (get >>= g) := by
  rintro w _ @⟨faults, hfaults⟩
  exact h w faults hfaults _ _ (.intro hfaults)

/-- A change of the world that has nothing to do with the planned failures. -/
theorem modify {f : World → World} {p : Sim α} {q : Sim β} (h : Alike R p q)
    (hf : ∀ w faults, f { w with faults } = { f w with faults } ∧ (f w).faults = w.faults) :
    Alike R (modify f >>= fun _ => p) (modify f >>= fun _ => q) := by
  rintro w _ @⟨faults, hfaults⟩
  refine h (f w) (f { w with faults }) ?_
  rw [(hf w faults).1]
  exact .intro (by rwa [(hf w faults).2])

end Alike

theorem takeFault_of_nil {f : StoreFunction} {w : World}
    (h : w.faults.dropWhile (·.on != f) = []) : takeFault f w = (none, w) := by
  unfold takeFault
  simp only [modifyGet, MonadStateOf.modifyGet, StateT.modifyGet, h]
  rfl

theorem takeFault_of_cons {f : StoreFunction} {w : World} {fault : PlannedFault}
    {rest : List PlannedFault} (h : w.faults.dropWhile (·.on != f) = fault :: rest) :
    takeFault f w =
      let before := w.faults.takeWhile (·.on != f)
      if 0 < fault.after then
        (none, { w with faults := before ++ { fault with after := fault.after - 1 } :: rest })
      else (some fault.error, { w with faults := before ++ rest }) := by
  unfold takeFault
  simp only [modifyGet, MonadStateOf.modifyGet, StateT.modifyGet, h]
  rfl

theorem takeFault_alike (f : StoreFunction) :
    Alike (Option.Rel StoreError.Alike) (takeFault f) (takeFault f) := by
  rintro w _ @⟨faults, h⟩
  obtain ⟨hbefore, hfrom⟩ := forall₂_split h f
  generalize hdue : w.faults.dropWhile (·.on != f) = due at hfrom
  generalize hdue' : faults.dropWhile (·.on != f) = due' at hfrom
  cases hfrom with
  | nil =>
    rw [takeFault_of_nil hdue, takeFault_of_nil (w := { w with faults }) hdue']
    exact ⟨.none, .intro h⟩
  | cons hfault hrest =>
    rw [takeFault_of_cons hdue, takeFault_of_cons (w := { w with faults }) hdue', hfault.after]
    dsimp only
    split
    · exact ⟨.none, .intro (List.rel_append hbefore (.cons ⟨hfault.on, hfault.error, rfl⟩ hrest))⟩
    · exact ⟨.some hfault.error, .intro (List.rel_append hbefore hrest)⟩

/-- What is done unless a failure is planned fails alike if it does. -/
theorem unlessFaulty_alike (f : StoreFunction) {p : Sim (Except StoreError α)}
    (h : Alike (SameUpTo StoreError.Alike) p p) :
    Alike (SameUpTo StoreError.Alike) (unlessFaulty f p) (unlessFaulty f p) := by
  refine (takeFault_alike f).bind ?_
  rintro _ _ (he | _)
  · exact .pure (.error he)
  · exact h

/-! ## The calls -/

theorem save_alike (b : Blueprint) : Alike Eq (save b) (save b) := by
  refine .ofGet fun w faults _ => ?_
  dsimp only
  split
  · exact Alike.modify (.pure rfl) fun _ _ => ⟨rfl, rfl⟩
  · exact .pure rfl

theorem saveAfterRival_alike (b : Blueprint) :
    Alike Eq (saveAfterRival b) (saveAfterRival b) := by
  refine .ofGet fun w faults _ => ?_
  dsimp only
  split
  · exact save_alike b
  · refine Alike.modify ((save_alike _).bind ?_) fun _ _ => ⟨rfl, rfl⟩
    rintro (e | _) _ rfl
    · exact .pure rfl
    · exact save_alike b

theorem freshId_alike : Alike Eq freshId freshId := by
  rintro w _ @⟨faults, h⟩
  exact ⟨rfl, .intro h⟩

theorem putAgenda_alike (seat : Seat) (a : Agenda) :
    Alike Eq (putAgenda seat a) (putAgenda seat a) := by
  rintro w _ @⟨faults, h⟩
  cases seat with
  | service => exact ⟨rfl, .intro h⟩
  | spare => exact ⟨rfl, .intro h⟩

theorem submit_alike (p : NewPipeline) : Alike Eq (submit p) (submit p) := by
  refine freshId_alike.bind ?_
  rintro id _ rfl
  exact .ofGet fun _ _ _ => Alike.modify (.pure rfl) fun _ _ => ⟨rfl, rfl⟩

/-- The agenda of a seat has nothing to do with the planned failures. -/
theorem agendaOf_withFaults (w : World) (faults : List PlannedFault) (seat : Seat) :
    agendaOf { w with faults } seat = agendaOf w seat := by
  cases seat <;> rfl

/-- Every call is answered alike. -/
theorem answer_alike (seat : Seat) (c : Call) :
    Alike c.Alike (answer seat c) (answer seat c) := by
  cases c with
  | findBlueprints q => exact unlessFaulty_alike _ (.ofGet fun _ _ _ => .pure (.ok _))
  | findBlueprint id => exact unlessFaulty_alike _ (.ofGet fun _ _ _ => .pure (.ok _))
  | findOwner project => exact unlessFaulty_alike _ (.ofGet fun _ _ _ => .pure (.ok _))
  | findProject name => exact unlessFaulty_alike _ (.ofGet fun _ _ _ => .pure (.ok _))
  | findMetrics project => exact unlessFaulty_alike _ (.ofGet fun _ _ _ => .pure (.ok _))
  | saveBlueprint b =>
    refine unlessFaulty_alike _ ((saveAfterRival_alike b).mono ?_)
    rintro r _ rfl
    exact .refl .refl r
  | deleteBlueprint id =>
    exact unlessFaulty_alike _
      (.ofGet fun _ _ _ => Alike.modify (.pure (.ok _)) fun _ _ => ⟨rfl, rfl⟩)
  | submitPipeline p =>
    refine unlessFaulty_alike _ ((submit_alike p).bind ?_)
    rintro pipeline _ rfl
    exact .pure (.ok pipeline)
  | generatePlan r => exact .ofGet fun _ _ _ => .pure rfl
  | now => exact .ofGet fun _ _ _ => .pure rfl
  | freshId => exact freshId_alike
  | lockAgenda => exact .pure rfl
  | unlockAgenda => exact .pure rfl
  | rebuildAgenda bs =>
    refine .ofGet fun w faults _ => ?_
    dsimp only
    rw [agendaOf_withFaults]
    exact (putAgenda_alike seat _).bind fun _ _ _ => .pure rfl
  | listAgenda =>
    refine .ofGet fun w faults _ => ?_
    rw [agendaOf_withFaults]
    exact .pure rfl
  | stopAgenda =>
    refine .ofGet fun w faults _ => ?_
    rw [agendaOf_withFaults]
    exact putAgenda_alike seat _

end Sim

end Ingestion.Simulation
