import EtcdBackup.Time.Duration

/-!
# Bounded retries

`Retry.run` repeats an operation until it succeeds or the attempts are used up, with a pause
between two attempts and none after the last. At least one attempt is made. The operation is told
the number of the attempt, from one on, and the number of attempts made is part of the result.
-/

set_option autoImplicit false
set_option relaxedAutoImplicit false

namespace EtcdBackup

/-- How often to try, and how long to wait in between. -/
structure RetryPolicy where
  maxAttempts : UInt32 := 3
  delay : Duration := Duration.ofSeconds 20
  deriving DecidableEq, Inhabited

/-- The last result of a repeated operation and the number of attempts made. -/
structure Retried (ε α : Type) where
  attempts : Nat
  result : Except ε α

namespace Retry

/-- Makes attempt number `attempt`, and up to `remaining` more if it fails. -/
def attemptFrom {m : Type → Type} [Monad m] {ε α : Type} (pause : m Unit)
    (operation : Nat → m (Except ε α)) (attempt : Nat) : Nat → m (Retried ε α)
  | 0 => do
    let result ← operation attempt
    pure ⟨attempt, result⟩
  | remaining + 1 => do
    match ← operation attempt with
    | .ok value => pure ⟨attempt, .ok value⟩
    | .error _ => do
      pause
      attemptFrom pause operation (attempt + 1) remaining

/-- Repeats an operation as a policy says. -/
def run {m : Type → Type} [Monad m] {ε α : Type} (sleep : Duration → m Unit)
    (policy : RetryPolicy) (operation : Nat → m (Except ε α)) : m (Retried ε α) :=
  attemptFrom (sleep policy.delay) operation 1 (policy.maxAttempts.toNat - 1)

end Retry

end EtcdBackup
