import Oneshot.Host.Request

/-!
# Routines

A routine is a tree of requests: either it is done, or it asks the host and goes on with the reply.
Nothing else happens in it, so what a routine does can be followed request by request, whether it
runs alone or takes turns with others.

- `bind_assoc`, `bind_done`: the laws of composition.
- `interpret_bind`: a host that answers the parts one after the other answers the whole.
-/

namespace Oneshot

/-- A computation that talks to the host. -/
inductive Routine (α : Type) where
  | done (value : α)
  | ask (request : Request) (next : request.Reply → Routine α)

namespace Routine

/-- One routine and then another that depends on its value. -/
def bind {α β : Type} (r : Routine α) (f : α → Routine β) : Routine β :=
  match r with
  | .done x => f x
  | .ask request next => .ask request fun reply => (next reply).bind f

instance : Monad Routine where
  pure := done
  bind := bind

/-- The routine of a single request. -/
def request (r : Request) : Routine r.Reply :=
  .ask r .done

/-- The routine carried out with the answers of a host. -/
def interpret {m : Type → Type} [Monad m] (answer : (r : Request) → m r.Reply) {α : Type} :
    Routine α → m α
  | .done x => pure x
  | .ask r next => do
    let reply ← answer r
    interpret answer (next reply)

@[simp] theorem pure_eq {α : Type} (x : α) : (pure x : Routine α) = .done x := rfl

@[simp] theorem bind_done {α β : Type} (x : α) (f : α → Routine β) : (Routine.done x >>= f) = f x :=
  rfl

@[simp] theorem bind_ask {α β : Type} (r : Request) (next : r.Reply → Routine α)
    (f : α → Routine β) : (Routine.ask r next >>= f) = .ask r fun reply => next reply >>= f :=
  rfl

/-- Composition is associative. -/
theorem bind_assoc {α β γ : Type} (r : Routine α) (f : α → Routine β) (g : β → Routine γ) :
    (r >>= f) >>= g = r >>= fun x => f x >>= g := by
  induction r with
  | done x => rfl
  | ask request next ih =>
    simp only [bind_ask]
    congr 1
    funext reply
    exact ih reply

/-- A routine followed by nothing is the routine. -/
theorem bind_pure {α : Type} (r : Routine α) : r >>= Routine.done = r := by
  induction r with
  | done x => rfl
  | ask request next ih =>
    simp only [bind_ask]
    congr 1
    funext reply
    exact ih reply

instance : LawfulMonad Routine :=
  LawfulMonad.mk' Routine (fun r => bind_pure r) (fun _ _ => rfl) bind_assoc

/-- A host that answers the parts one after the other answers the whole. -/
theorem interpret_bind {m : Type → Type} [Monad m] [LawfulMonad m]
    (answer : (r : Request) → m r.Reply) {α β : Type} (r : Routine α) (f : α → Routine β) :
    interpret answer (r >>= f) = interpret answer r >>= fun x => interpret answer (f x) := by
  induction r with
  | done x => simp [interpret]
  | ask request next ih => simp [interpret, ih]

end Routine

end Oneshot
