import Mathlib
import Ingestion.Request.Service

/-!
# Two runs of a request

Two runs of a program that meet with the same replies come to the same result. Here they may meet
with replies that differ in the failures of the store: where one of them gets a failure the other
one gets a failure too, but possibly another one (`Call.Alike`). What the two runs come to is then
told by a relation between results (`Program.Alike`). There is one rule for each way in which
programs are put together.

A failure of the store is anything but a constraint. A constraint is no failure: by it the store
tells that a blueprint breaks a rule between records, and a request goes on from there.
-/

namespace Ingestion

/-! ## Results and replies -/

/-- Two results are the same, up to a relation between errors. -/
inductive SameUpTo {ε α : Type} (E : ε → ε → Prop) : Except ε α → Except ε α → Prop
  | ok (a : α) : SameUpTo E (.ok a) (.ok a)
  | error {e e' : ε} (h : E e e') : SameUpTo E (.error e) (.error e')

namespace SameUpTo

variable {ε α : Type} {E : ε → ε → Prop}

theorem refl (h : ∀ e, E e e) (r : Except ε α) : SameUpTo E r r := by
  cases r with
  | ok a => exact .ok a
  | error e => exact .error (h e)

end SameUpTo

namespace StoreError

/-- The store refuses what would break a rule between records. -/
def isConstraint : StoreError → Bool
  | constraint _ => true
  | _ => false

/-- Two errors of the store are the same one, or both are failures. -/
def Alike (e e' : StoreError) : Prop :=
  e = e' ∨ e.isConstraint = false ∧ e'.isConstraint = false

theorem Alike.refl (e : StoreError) : e.Alike e :=
  .inl rfl

end StoreError

/-- Two replies to a call are the same one, or both tell of a failure of the store. -/
def Call.Alike : (c : Call) → c.Reply → c.Reply → Prop
  | .findBlueprints _ | .findBlueprint _ | .findOwner _ | .saveBlueprint _ | .deleteBlueprint _
  | .findProject _ | .findMetrics _ | .submitPipeline _ => SameUpTo StoreError.Alike
  | .generatePlan _ | .now | .freshId | .lockAgenda | .unlockAgenda | .rebuildAgenda _
  | .listAgenda | .stopAgenda => Eq

namespace Program

variable {α β γ δ : Type}

/-- Two programs make the same calls as long as the replies are alike, and their results are
related. -/
inductive Alike (R : α → β → Prop) : Program α → Program β → Prop
  | done {a : α} {b : β} (h : R a b) : Alike R (.done a) (.done b)
  | call {c : Call} {next : c.Reply → Program α} {next' : c.Reply → Program β}
      (h : ∀ reply reply', c.Alike reply reply' → Alike R (next reply) (next' reply')) :
      Alike R (.call c next) (.call c next')

namespace Alike

variable {R : α → β → Prop} {p : Program α} {q : Program β}

theorem ask (c : Call) : (Program.ask c).Alike c.Alike (Program.ask c) :=
  .call fun _ _ h => .done h

theorem mono {R' : α → β → Prop} (h : p.Alike R q) (himp : ∀ a b, R a b → R' a b) :
    p.Alike R' q := by
  induction h with
  | done h => exact .done (himp _ _ h)
  | call _ ih => exact .call ih

/-- One program after another. -/
theorem bind {R' : γ → δ → Prop} {f : α → Program γ} {g : β → Program δ} (h : p.Alike R q)
    (hf : ∀ a b, R a b → (f a).Alike R' (g b)) : (p >>= f).Alike R' (q >>= g) := by
  induction h with
  | done h => exact hf _ _ h
  | call _ ih => exact .call ih

/-- What two programs come to where they get replies that are alike. -/
theorem run {σ σ' : Type} {S : σ → σ' → Prop} {answer : (c : Call) → StateM σ c.Reply}
    {answer' : (c : Call) → StateM σ' c.Reply} (h : p.Alike R q)
    (hanswer : ∀ c s s', S s s' →
      c.Alike ((answer c).run s).1 ((answer' c).run s').1 ∧
        S ((answer c).run s).2 ((answer' c).run s').2)
    {s : σ} {s' : σ'} (hs : S s s') :
    R ((p.run answer).run s).1 ((q.run answer').run s').1 ∧
      S ((p.run answer).run s).2 ((q.run answer').run s').2 := by
  induction h generalizing s s' with
  | done h => exact ⟨h, hs⟩
  | @call c next next' _ ih =>
    obtain ⟨hreply, hs⟩ := hanswer c s s' hs
    exact ih _ _ hreply hs

/-! ## Requests -/

variable {E : RequestError → RequestError → Prop}

/-- A request after a request. -/
theorem andThen {x y : Request α} {f g : α → Request γ} (h : x.run.Alike (SameUpTo E) y.run)
    (hf : ∀ a, (f a).run.Alike (SameUpTo E) (g a).run) :
    (x >>= f).run.Alike (SameUpTo E) (y >>= g).run := by
  refine bind (p := x.run) (q := y.run) h ?_
  rintro _ _ (a | he)
  · exact hf a
  · exact .done (.error he)

theorem pure (a : α) :
    (Pure.pure a : Request α).run.Alike (SameUpTo E) (Pure.pure a : Request α).run :=
  .done (.ok a)

theorem throw {e e' : RequestError} (h : E e e') :
    (MonadExcept.throw e : Request α).run.Alike (SameUpTo E)
      (MonadExcept.throw e' : Request α).run :=
  .done (.error h)

theorem always {p q : Program α} (h : p.Alike Eq q) :
    (Request.always p).run.Alike (SameUpTo E) (Request.always q).run := by
  refine h.bind ?_
  rintro a _ rfl
  exact .done (.ok a)

theorem lift {ε : Type} {wrap : ε → RequestError} {p q : Program (Except ε α)}
    {D : ε → ε → Prop} (h : p.Alike (SameUpTo D) q)
    (hwrap : ∀ e e', D e e' → E (wrap e) (wrap e')) :
    (Request.lift wrap p).run.Alike (SameUpTo E) (Request.lift wrap q).run := by
  refine h.bind ?_
  rintro _ _ (a | he)
  · exact .done (.ok a)
  · exact .done (.error (hwrap _ _ he))

end Alike

end Program

end Ingestion
