import SecretResolver.Duration
import SecretResolver.Failure
import SecretResolver.Log

set_option autoImplicit false

namespace SecretResolver

structure Retry where
  retries : UInt32
  delay : Duration
  deriving DecidableEq, Repr

namespace Retry

-- the first attempt and the retries, as far as the count can say it
def maxAttempts (r : Retry) : UInt32 :=
  if r.retries < 0xFFFFFFFF then r.retries + 1 else 0xFFFFFFFF

theorem toNat_maxAttempts (r : Retry) :
    r.maxAttempts.toNat = min (r.retries.toNat + 1) 0xFFFFFFFF := by
  have bound : (0xFFFFFFFF : UInt32).toNat = 0xFFFFFFFF := rfl
  unfold maxAttempts
  split
  · next less =>
    rw [UInt32.lt_iff_toNat_lt] at less
    rw [UInt32.toNat_add, UInt32.toNat_one]
    omega
  · next less =>
    rw [UInt32.lt_iff_toNat_lt] at less
    omega

theorem toNat_succ_of_lt {current limit : UInt32} (less : current < limit) :
    (current + 1).toNat = current.toNat + 1 := by
  have bound := limit.toNat_lt
  rw [UInt32.lt_iff_toNat_lt] at less
  rw [UInt32.toNat_add, UInt32.toNat_one]
  omega

variable {m : Type → Type} [Monad m] [Log.Logger m] {α : Type}

def attemptFrom (r : Retry) (sleep : Duration → m Unit) (attempt : UInt32 → m (Except Failure α))
    (current : UInt32) : m (Except Failure α) := do
  match ← attempt current with
  | .ok value => return .ok value
  | .error failure =>
    if less : current < r.maxAttempts then
      Log.warn "Vault authentication failed, retrying"
        [("attempt", toString current), ("max_attempts", toString r.maxAttempts),
          ("delay_secs", toString r.delay.seconds), ("error", failure.message)]
      sleep r.delay
      attemptFrom r sleep attempt (current + 1)
    else return .error (.authentication current failure.message)
termination_by r.maxAttempts.toNat - current.toNat
decreasing_by
  rw [toNat_succ_of_lt less]
  rw [UInt32.lt_iff_toNat_lt] at less
  omega

def run (r : Retry) (sleep : Duration → m Unit) (attempt : UInt32 → m (Except Failure α)) :
    m (Except Failure α) :=
  attemptFrom r sleep attempt 1

end Retry

end SecretResolver
