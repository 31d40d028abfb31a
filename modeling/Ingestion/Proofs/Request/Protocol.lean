import Mathlib
import Ingestion.Request.Program

/-!
# Protocols of calls

A protocol says which calls a program may make at a stage, and to which stage a call leads with
the reply it gets. A program obeys a protocol from a stage on if it keeps to it whatever the
replies are, as long as they are replies that the protocol reckons with.

`Program.Obeys` follows the program, so the rules below are one for each way in which programs are
put together: the end, a call, a program after a program, and the same for requests, which stop at
their first error.

The error of a rebuild tells that a change has been stored before. All other errors of a request
come before its change (`Protocol.Ends`).
-/

namespace Ingestion

/-- An order in which calls are made, told by stages. -/
structure Protocol (σ : Type) where
  /-- The replies that are reckoned with. -/
  Replies : (c : Call) → c.Reply → Prop
  /-- The call is allowed at the first stage, and leads to the second one with this reply. -/
  Next : σ → (c : Call) → c.Reply → σ → Prop

/-- The calls by which a blueprint is checked and its plan is composed. -/
def Call.isLookup : Call → Bool
  | .findOwner _ | .findProject _ | .findMetrics _ | .generatePlan _ => true
  | _ => false

/-- The calls on the agenda, and the one that asks what to put into it. -/
def Call.isUpkeep : Call → Bool
  | .lockAgenda | .unlockAgenda | .rebuildAgenda _ | .listAgenda | .stopAgenda
  | .findBlueprints _ => true
  | _ => false

/-- At this stage the protocol allows the given calls and takes no notice of them. -/
def Protocol.Ignores {σ : Type} (P : Protocol σ) (s : σ) (calls : Call → Bool) : Prop :=
  ∀ c, calls c = true → ∀ reply, P.Next s c reply s

/-- The error is the one of a rebuild after a change. -/
def RequestError.isReload : RequestError → Bool
  | .reload _ => true
  | _ => false

/-- A part of a request ends at the stage `s`: with a result that satisfies `Q`, or with an error
that is not the one of a rebuild. -/
def Protocol.Ends {σ α : Type} (s : σ) (Q : α → Prop) : σ → Except RequestError α → Prop
  | s', .ok a => s' = s ∧ Q a
  | s', .error e => s' = s ∧ e.isReload = false

namespace Program

variable {σ α β : Type} {P : Protocol σ} {s : σ}

/-- From a stage on, the program makes only calls that the protocol allows, and the stage and the
result that it ends with satisfy `post`. -/
def Obeys (P : Protocol σ) : σ → Program α → (σ → α → Prop) → Prop
  | s, .done a, post => post s a
  | s, .call c next, post =>
    ∀ reply, P.Replies c reply → ∃ s', P.Next s c reply s' ∧ Obeys P s' (next reply) post

namespace Obeys

theorem done {a : α} {post : σ → α → Prop} (h : post s a) : (Program.done a).Obeys P s post :=
  h

/-- A single call. -/
theorem ask {c : Call} {post : σ → c.Reply → Prop}
    (h : ∀ reply, P.Replies c reply → ∃ s', P.Next s c reply s' ∧ post s' reply) :
    (Program.ask c).Obeys P s post :=
  h

theorem mono {p : Program α} {post post' : σ → α → Prop} (h : p.Obeys P s post)
    (hpost : ∀ s a, post s a → post' s a) : p.Obeys P s post' := by
  induction p generalizing s with
  | done a => exact hpost s a h
  | call c next ih =>
    intro reply hreply
    obtain ⟨s', hnext, h⟩ := h reply hreply
    exact ⟨s', hnext, ih reply h⟩

/-- One program after another. -/
theorem bind {p : Program α} {f : α → Program β} {Q : σ → α → Prop} {post : σ → β → Prop}
    (h : p.Obeys P s Q) (hf : ∀ s a, Q s a → (f a).Obeys P s post) :
    (p >>= f).Obeys P s post := by
  induction p generalizing s with
  | done a => exact hf s a h
  | call c next ih =>
    intro reply hreply
    obtain ⟨s', hnext, h⟩ := h reply hreply
    exact ⟨s', hnext, ih reply h⟩

/-! ## Requests -/

/-- A request after a request. The second one is made only if the first one succeeds. -/
theorem andThen {x : Request α} {f : α → Request β}
    {Q : σ → Except RequestError α → Prop} {post : σ → Except RequestError β → Prop}
    (h : x.run.Obeys P s Q) (hok : ∀ s a, Q s (.ok a) → (f a).run.Obeys P s post)
    (herror : ∀ s e, Q s (.error e) → post s (.error e)) :
    (x >>= f).run.Obeys P s post := by
  refine bind (p := x.run) h fun s r hr => ?_
  cases r with
  | ok a => exact hok s a hr
  | error e => exact herror s e hr

theorem pure {a : α} {post : σ → Except RequestError α → Prop} (h : post s (.ok a)) :
    (Pure.pure a : Request α).run.Obeys P s post :=
  h

theorem throw {e : RequestError} {post : σ → Except RequestError α → Prop}
    (h : post s (.error e)) : (MonadExcept.throw e : Request α).run.Obeys P s post :=
  h

theorem always {p : Program α} {post : σ → Except RequestError α → Prop}
    (h : p.Obeys P s fun s a => post s (.ok a)) : (Request.always p).run.Obeys P s post :=
  bind h fun _ _ ha => ha

theorem lift {ε : Type} {wrap : ε → RequestError} {p : Program (Except ε α)}
    {post : σ → Except RequestError α → Prop}
    (h : p.Obeys P s fun s r => post s (r.mapError wrap)) :
    (Request.lift wrap p).run.Obeys P s post := by
  refine bind h fun s r hr => ?_
  cases r with
  | ok a => exact hr
  | error e => exact hr

theorem store {p : Program (Except StoreError α)} {post : σ → Except RequestError α → Prop}
    (h : p.Obeys P s fun s r => post s (r.mapError .store)) :
    (Request.store p).run.Obeys P s post :=
  lift h

/-! ## Parts of a request that leave the stage as it is -/

open Protocol (Ends)

theorem ends_andThen {x : Request α} {f : α → Request β} {Q : α → Prop} {R : β → Prop}
    (h : x.run.Obeys P s (Ends s Q)) (hf : ∀ a, Q a → (f a).run.Obeys P s (Ends s R)) :
    (x >>= f).run.Obeys P s (Ends s R) := by
  refine andThen h ?_ ?_
  · rintro s' a ⟨rfl, ha⟩
    exact hf a ha
  · rintro s' e ⟨rfl, he⟩
    exact ⟨rfl, he⟩

theorem ends_lift {ε : Type} {wrap : ε → RequestError} {p : Program (Except ε α)} {Q : α → Prop}
    (h : p.Obeys P s fun s' r => s' = s ∧ ∀ a, r = .ok a → Q a)
    (hwrap : ∀ e, (wrap e).isReload = false) :
    (Request.lift wrap p).run.Obeys P s (Ends s Q) := by
  refine lift (h.mono ?_)
  rintro s' (e | a) ⟨rfl, ha⟩
  · exact ⟨rfl, hwrap e⟩
  · exact ⟨rfl, ha a rfl⟩

/-- A call that the protocol takes no notice of. -/
theorem ask_ignored {calls : Call → Bool} (h : P.Ignores s calls) {c : Call}
    (hc : calls c = true) :
    (Program.ask c).Obeys P s fun s' reply => s' = s ∧ P.Replies c reply :=
  ask fun reply hreply => ⟨s, h c hc reply, rfl, hreply⟩

end Obeys

end Program

end Ingestion
