import SecretResolver.Retry

set_option autoImplicit false

namespace SecretResolver.Retry

variable {m : Type → Type} [Monad m] [Log.Logger m] {α : Type}

-- as many attempts more as are left, and one
def runFrom (r : Retry) (sleep : Duration → m Unit) (attempt : UInt32 → m (Except Failure α))
    (current : UInt32) : (left : Nat) → m (Except Failure α)
  | 0 => do
    match ← attempt current with
    | .ok value => return .ok value
    | .error failure => return .error (.authentication current failure.message)
  | left + 1 => do
    match ← attempt current with
    | .ok value => return .ok value
    | .error failure =>
      Log.warn "Vault authentication failed, retrying"
        [("attempt", toString current), ("max_attempts", toString r.maxAttempts),
          ("delay_secs", toString r.delay.seconds), ("error", failure.message)]
      sleep r.delay
      runFrom r sleep attempt (current + 1) left

theorem attemptFrom_eq_runFrom (r : Retry) (sleep : Duration → m Unit)
    (attempt : UInt32 → m (Except Failure α)) {current : UInt32} {left : Nat}
    (last : current.toNat + left = r.maxAttempts.toNat) :
    r.attemptFrom sleep attempt current = r.runFrom sleep attempt current left := by
  induction left generalizing current with
  | zero =>
    have stop : ¬current < r.maxAttempts := by
      rw [UInt32.lt_iff_toNat_lt]
      omega
    rw [attemptFrom, runFrom]
    refine congrArg _ (funext fun result => ?_)
    cases result with
    | ok value => rfl
    | error failure => exact dif_neg stop
  | succ left ih =>
    have more : current < r.maxAttempts := by
      rw [UInt32.lt_iff_toNat_lt]
      omega
    have last : (current + 1).toNat + left = r.maxAttempts.toNat := by
      rw [toNat_succ_of_lt more]
      omega
    rw [attemptFrom, runFrom]
    refine congrArg _ (funext fun result => ?_)
    cases result with
    | ok value => rfl
    | error failure =>
      dsimp only
      rw [dif_pos more, ih last]

theorem run_eq_runFrom (r : Retry) (sleep : Duration → m Unit)
    (attempt : UInt32 → m (Except Failure α)) :
    r.run sleep attempt = r.runFrom sleep attempt 1 (r.maxAttempts.toNat - 1) := by
  have limit := r.toNat_maxAttempts
  apply attemptFrom_eq_runFrom
  rw [UInt32.toNat_one]
  omega

end SecretResolver.Retry
