import SecretResolver.Proofs.Retry.Counted

set_option autoImplicit false

namespace SecretResolver

section

variable {m : Type → Type} [Monad m] {α β γ : Type}

def FailsOnlyAs (failure : String → Failure) (act : m (Except Failure α)) : Prop :=
  ∃ outcome : m (Except String α), act = (·.mapError failure) <$> outcome

namespace FailsOnlyAs

variable [LawfulMonad m] {failure : String → Failure}

theorem of_ok (value : α) : FailsOnlyAs failure (pure (.ok value) : m _) :=
  ⟨pure (.ok value), by rw [map_pure]; rfl⟩

theorem of_error (cause : String) :
    FailsOnlyAs failure (pure (.error (failure cause)) : m (Except Failure α)) :=
  ⟨pure (.error cause), by rw [map_pure]; rfl⟩

theorem bind {act : m γ} {next : γ → m (Except Failure α)}
    (each : ∀ value, FailsOnlyAs failure (next value)) : FailsOnlyAs failure (act >>= next) := by
  obtain ⟨outcome, next_eq⟩ := Classical.skolem.1 each
  refine ⟨act >>= outcome, ?_⟩
  rw [map_bind]
  exact congrArg _ (funext next_eq)

-- What comes after a success may do anything, if it only fails in the same way.
theorem andThen {act : m (Except Failure α)} {next : Except Failure α → m (Except Failure β)}
    (first : FailsOnlyAs failure act) (of_ok : ∀ value, FailsOnlyAs failure (next (.ok value)))
    (stops : ∀ cause, next (.error cause) = pure (.error cause)) :
    FailsOnlyAs failure (act >>= next) := by
  obtain ⟨outcome, rfl⟩ := first
  rw [bind_map_left]
  apply bind
  intro result
  cases result with
  | error cause =>
    change FailsOnlyAs failure (next (.error (failure cause)))
    rw [stops]
    exact of_error cause
  | ok value => exact of_ok value

theorem map {act : m (Except Failure α)} (f : α → β) (first : FailsOnlyAs failure act) :
    FailsOnlyAs failure (do return (← act).map f) :=
  first.andThen (fun value => of_ok (f value)) fun _ => rfl

end FailsOnlyAs

end

variable {m : Type → Type} [Monad m] [LawfulMonad m]

namespace Retry

variable [Log.Logger m] {α : Type}

theorem failsOnlyAs_runFrom (r : Retry) (sleep : Duration → m Unit)
    (attempt : UInt32 → m (Except Failure α)) {current : UInt32} {left : Nat}
    (last : current.toNat + left = r.maxAttempts.toNat) :
    FailsOnlyAs (.authentication r.maxAttempts) (r.runFrom sleep attempt current left) := by
  induction left generalizing current with
  | zero =>
    apply FailsOnlyAs.bind
    intro result
    cases result with
    | error failure =>
      rw [UInt32.toNat_inj.1 last]
      exact .of_error failure.message
    | ok value => exact .of_ok value
  | succ left ih =>
    apply FailsOnlyAs.bind
    intro result
    cases result with
    | error failure =>
      have next : (current + 1).toNat + left = r.maxAttempts.toNat := by
        have bound := r.maxAttempts.toNat_lt
        rw [UInt32.toNat_add, UInt32.toNat_one]
        omega
      exact .bind fun _ => .bind fun _ => ih next
    | ok value => exact .of_ok value

theorem failsOnlyAs_run (r : Retry) (sleep : Duration → m Unit)
    (attempt : UInt32 → m (Except Failure α)) :
    FailsOnlyAs (.authentication r.maxAttempts) (r.run sleep attempt) := by
  rw [run_eq_runFrom]
  apply failsOnlyAs_runFrom
  have limit := r.toNat_maxAttempts
  rw [UInt32.toNat_one]
  omega

-- The first attempt is all there is where attempts do not fail.
theorem run_of_ok (r : Retry) (sleep : Duration → m Unit) (act : UInt32 → m PUnit) (value : α) :
    r.run sleep (fun number => do act number; return .ok value) =
      (do act 1; return .ok value : m (Except Failure α)) := by
  rw [run_eq_runFrom]
  cases r.maxAttempts.toNat - 1 <;> simp [runFrom]

end Retry

end SecretResolver
