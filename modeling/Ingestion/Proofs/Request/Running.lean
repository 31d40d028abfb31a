import Mathlib
import Ingestion.Request.Program

/-!
# Carrying out programs

A program is carried out by answering its calls one after another. One program after another is
carried out by carrying out both (`Program.run_bind`), in any surroundings.

Where the surroundings have a state and may not be able to answer, a request goes on with the state
that the one before it has left, or stops at its error.
-/

namespace Ingestion

namespace Program

variable {m : Type → Type} [Monad m] [LawfulMonad m] {α β : Type} (answer : (c : Call) → m c.Reply)

theorem run_bind (p : Program α) (f : α → Program β) :
    (p >>= f).run answer = p.run answer >>= fun a => (f a).run answer := by
  induction p with
  | done a => exact (pure_bind a fun a => (f a).run answer).symm
  | call c next ih =>
    show (answer c >>= fun reply => (next reply >>= f).run answer) =
      (answer c >>= fun reply => (next reply).run answer) >>= fun a => (f a).run answer
    simp only [LawfulMonad.bind_assoc, ih]

theorem run_ask (c : Call) : (ask c).run answer = answer c := by
  simp [ask, run]

end Program

namespace Request

variable {σ α β ε : Type} {answer : (c : Call) → StateT σ Option c.Reply} {s s' : σ}

/-- A request after a request that succeeds. -/
theorem run_andThen {x : Request α} {f : α → Request β} {a : α}
    (h : Program.run answer x.run s = some (.ok a, s')) :
    Program.run answer (x >>= f).run s = Program.run answer (f a).run s' := by
  rw [ExceptT.run_bind, Program.run_bind]
  show (Program.run answer x.run s).bind _ = _
  rw [h]
  rfl

/-- A request after a request that fails. -/
theorem run_andThen_error {x : Request α} {f : α → Request β} {e : RequestError}
    (h : Program.run answer x.run s = some (.error e, s')) :
    Program.run answer (x >>= f).run s = some (.error e, s') := by
  rw [ExceptT.run_bind, Program.run_bind]
  show (Program.run answer x.run s).bind _ = _
  rw [h]
  rfl

theorem run_lift {wrap : ε → RequestError} {p : Program (Except ε α)} {r : Except ε α}
    (h : Program.run answer p s = some (r, s')) :
    Program.run answer (Request.lift wrap p).run s = some (r.mapError wrap, s') := by
  show Program.run answer (p >>= _) s = _
  rw [Program.run_bind]
  show (Program.run answer p s).bind _ = _
  rw [h]
  cases r with
  | ok a => rfl
  | error e => rfl

end Request

end Ingestion
