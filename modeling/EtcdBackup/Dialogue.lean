/-!
# Computations that ask their surroundings

A `Dialogue S α` is a computation of an `α` that may ask requests of the signature `S` on its way
and goes on with whatever it is answered. What stands behind the requests is left open: a handler
answers them in any monad (`Dialogue.run`), or by asking the requests of another signature
(`Dialogue.answeredBy`). A dialogue that is cut short after any request is an initial part of a
full one, which is what statements about interleavings and crashes speak of.
-/

set_option autoImplicit false
set_option relaxedAutoImplicit false

namespace EtcdBackup

/-- Requests and the types of their answers. -/
structure Signature where
  Request : Type
  Answer : Request → Type

/-- A computation of an `α` that may ask requests. -/
inductive Dialogue (S : Signature) (α : Type) : Type
  | done (value : α)
  | ask (request : S.Request) (next : S.Answer request → Dialogue S α)

namespace Dialogue

variable {S T : Signature} {α β : Type}

/-- Goes on with the value of a dialogue. -/
def bind (d : Dialogue S α) (f : α → Dialogue S β) : Dialogue S β :=
  match d with
  | .done a => f a
  | .ask r next => .ask r fun answer ↦ (next answer).bind f

instance : Monad (Dialogue S) where
  pure := .done
  bind := bind

/-- Asks one request. -/
def request (r : S.Request) : Dialogue S (S.Answer r) := .ask r .done

/-- Runs a dialogue with a handler of its requests. -/
def run {m : Type → Type} [Monad m] (handle : (r : S.Request) → m (S.Answer r)) :
    Dialogue S α → m α
  | .done a => pure a
  | .ask r next => do
    let answer ← handle r
    run handle (next answer)

/-- Answers the requests of one signature by asking those of another. -/
def answeredBy (handle : (r : S.Request) → Dialogue T (S.Answer r)) (d : Dialogue S α) :
    Dialogue T α :=
  d.run handle

@[simp] theorem pure_eq (a : α) : (pure a : Dialogue S α) = .done a := rfl

@[simp] theorem done_bind (a : α) (f : α → Dialogue S β) : (Dialogue.done a >>= f) = f a := rfl

@[simp] theorem ask_bind (r : S.Request) (next : S.Answer r → Dialogue S α)
    (f : α → Dialogue S β) :
    (Dialogue.ask r next >>= f) = .ask r fun answer ↦ next answer >>= f := rfl

theorem bind_done (d : Dialogue S α) : (d >>= Dialogue.done) = d := by
  induction d with
  | done a => rfl
  | ask r next ih => exact congrArg (Dialogue.ask r) (funext ih)

theorem bind_assoc {γ : Type} (d : Dialogue S α) (f : α → Dialogue S β) (g : β → Dialogue S γ) :
    (d >>= f >>= g) = (d >>= fun a ↦ f a >>= g) := by
  induction d with
  | done a => rfl
  | ask r next ih => exact congrArg (Dialogue.ask r) (funext ih)

instance : LawfulMonad (Dialogue S) :=
  LawfulMonad.mk' (Dialogue S) (fun d ↦ bind_done d) (fun _ _ ↦ rfl) bind_assoc

end Dialogue

end EtcdBackup
