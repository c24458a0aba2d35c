import SecretResolver.Proofs.Retry.Counted

set_option autoImplicit false

namespace SecretResolver.Retry

def attemptLimit (r : Retry) : Nat :=
  min (r.retries.toNat + 1) (UInt32.size - 1)

theorem attemptLimit_pos (r : Retry) : 0 < r.attemptLimit :=
  Nat.lt_min.2 ⟨Nat.succ_pos _, by decide⟩

theorem toNat_ofNat_of_le_attemptLimit {r : Retry} {n : Nat} (h : n ≤ r.attemptLimit) :
    (UInt32.ofNat n).toNat = n := by
  apply UInt32.toNat_ofNat_of_lt'
  have positive : 0 < UInt32.size := by decide
  unfold attemptLimit at h
  omega

def warning (r : Retry) (number : Nat) (failure : Failure) : Log.Entry where
  level := .warn
  message := "Vault authentication failed, retrying"
  fields := [("attempt", toString number), ("max_attempts", toString r.attemptLimit),
    ("delay_secs", toString r.delay.seconds), ("error", failure.message)]

structure Course (σ α : Type) where
  policy : Retry
  sleep : Duration → StateM σ Unit
  attempt : UInt32 → StateM σ (Except Failure α)
  start : σ

namespace Course

variable {σ α : Type} [Log.Logger (StateM σ)]

def pause (c : Course σ α) (number : Nat) (failure : Failure) : StateM σ Unit := do
  Log.Logger.write (c.policy.warning number failure)
  c.sleep c.policy.delay

-- The attempt that follows `n` failed ones has the number `n + 1`.
def stateAfter (c : Course σ α) : Nat → σ
  | 0 => c.start
  | n + 1 =>
    match (c.attempt (UInt32.ofNat (n + 1))).run (c.stateAfter n) with
    | (.ok _, s) => s
    | (.error failure, s) => ((c.pause (n + 1) failure).run s).2

def outcome (c : Course σ α) (n : Nat) : Except Failure α × σ :=
  (c.attempt (UInt32.ofNat (n + 1))).run (c.stateAfter n)

theorem stateAfter_succ {c : Course σ α} {n : Nat} {failure : Failure}
    (failed : (c.outcome n).1 = .error failure) :
    c.stateAfter (n + 1) = ((c.pause (n + 1) failure).run (c.outcome n).2).2 := by
  have split : (c.attempt (UInt32.ofNat (n + 1))).run (c.stateAfter n) =
      (.error failure, (c.outcome n).2) := Prod.ext failed rfl
  rw [stateAfter, split]

def run (c : Course σ α) : Except Failure α × σ :=
  (c.policy.run c.sleep c.attempt).run c.start

def runFrom (c : Course σ α) (number left : Nat) (s : σ) : Except Failure α × σ :=
  (c.policy.runFrom c.sleep c.attempt (UInt32.ofNat number) left).run s

-- Only the failure of the last attempt is reported.
def conclude (c : Course σ α) : Except Failure α → Except Failure α
  | .ok value => .ok value
  | .error failure => .error (.authentication c.policy.maxAttempts failure.message)

theorem runFrom_ok {c : Course σ α} {n : Nat} {value : α} (left : Nat)
    (succeeded : (c.outcome n).1 = .ok value) :
    c.runFrom (n + 1) left (c.stateAfter n) = (.ok value, (c.outcome n).2) := by
  have split : (c.attempt (UInt32.ofNat (n + 1))).run (c.stateAfter n) =
      (.ok value, (c.outcome n).2) := Prod.ext succeeded rfl
  cases left <;> simp only [runFrom, Retry.runFrom, StateT.run_bind, split] <;> rfl

theorem runFrom_failed {c : Course σ α} {n : Nat} {failure : Failure} (left : Nat)
    (within : n + 1 ≤ c.policy.attemptLimit) (failed : (c.outcome n).1 = .error failure) :
    c.runFrom (n + 1) (left + 1) (c.stateAfter n) =
      c.runFrom (n + 2) left (c.stateAfter (n + 1)) := by
  have split : (c.attempt (UInt32.ofNat (n + 1))).run (c.stateAfter n) =
      (.error failure, (c.outcome n).2) := Prod.ext failed rfl
  have number : toString (UInt32.ofNat (n + 1)) = toString (n + 1) :=
    congrArg toString (toNat_ofNat_of_le_attemptLimit within)
  have limit : toString c.policy.maxAttempts = toString c.policy.attemptLimit :=
    congrArg toString c.policy.toNat_maxAttempts
  have next : UInt32.ofNat (n + 1) + 1 = UInt32.ofNat (n + 2) := (UInt32.ofNat_add (n + 1) 1).symm
  rw [stateAfter_succ failed]
  simp only [runFrom, Retry.runFrom, StateT.run_bind, split, number, limit, next]
  rfl

theorem runFrom_failed_last {c : Course σ α} {n : Nat} {failure : Failure}
    (last : n + 1 = c.policy.attemptLimit) (failed : (c.outcome n).1 = .error failure) :
    c.runFrom (n + 1) 0 (c.stateAfter n) = (c.conclude (.error failure), (c.outcome n).2) := by
  have split : (c.attempt (UInt32.ofNat (n + 1))).run (c.stateAfter n) =
      (.error failure, (c.outcome n).2) := Prod.ext failed rfl
  have number : UInt32.ofNat (n + 1) = c.policy.maxAttempts := by
    apply UInt32.toNat_inj.1
    rw [toNat_ofNat_of_le_attemptLimit (Nat.le_of_eq last), toNat_maxAttempts]
    exact last
  simp only [runFrom, Retry.runFrom, StateT.run_bind, split, conclude, ← number]
  rfl

structure EndsAfter (c : Course σ α) (n : Nat) : Prop where
  failed : ∀ i < n, ∃ failure, (c.outcome i).1 = .error failure
  within : n < c.policy.attemptLimit
  succeeded : n + 1 < c.policy.attemptLimit → ∃ value, (c.outcome n).1 = .ok value

theorem exists_endsAfter (c : Course σ α) : ∃ n, c.EndsAfter n := by
  have search (limit : Nat) : (∀ i < limit, ∃ failure, (c.outcome i).1 = .error failure) ∨
      ∃ n < limit, (∀ i < n, ∃ failure, (c.outcome i).1 = .error failure) ∧
        ∃ value, (c.outcome n).1 = .ok value := by
    induction limit with
    | zero => exact .inl fun i less => absurd less (Nat.not_lt_zero i)
    | succ limit ih =>
      rcases ih with failed | ⟨n, less, found⟩
      · cases last : (c.outcome limit).1 with
        | ok value => exact .inr ⟨limit, Nat.lt_succ_self _, failed, value, last⟩
        | error failure =>
          refine .inl fun i less => ?_
          rcases Nat.lt_succ_iff_lt_or_eq.1 less with less | rfl
          · exact failed i less
          · exact ⟨failure, last⟩
      · exact .inr ⟨n, Nat.lt_succ_of_lt less, found⟩
  have positive := c.policy.attemptLimit_pos
  rcases search (c.policy.attemptLimit - 1) with failed | ⟨n, less, failed, found⟩
  · exact ⟨c.policy.attemptLimit - 1, failed, by omega, by omega⟩
  · exact ⟨n, failed, by omega, fun _ => found⟩

theorem run_eq_runFrom {c : Course σ α} {n : Nat} (ends : c.EndsAfter n) {i : Nat} (le : i ≤ n) :
    c.run = c.runFrom (i + 1) (c.policy.attemptLimit - 1 - i) (c.stateAfter i) := by
  induction i with
  | zero => rw [run, Retry.run_eq_runFrom, toNat_maxAttempts]; rfl
  | succ i ih =>
    obtain ⟨failure, failed⟩ := ends.failed i le
    have within := ends.within
    have left : c.policy.attemptLimit - 1 - i = c.policy.attemptLimit - 1 - (i + 1) + 1 := by omega
    rw [ih (Nat.le_of_succ_le le), left, runFrom_failed _ (by omega) failed]

theorem run_eq {c : Course σ α} {n : Nat} (ends : c.EndsAfter n) :
    c.run = (c.conclude (c.outcome n).1, (c.outcome n).2) := by
  rw [run_eq_runFrom ends (Nat.le_refl n)]
  cases last : (c.outcome n).1 with
  | ok value => exact runFrom_ok _ last
  | error failure =>
    have within := ends.within
    rcases Nat.lt_or_eq_of_le (Nat.succ_le_of_lt within) with more | exhausted
    · obtain ⟨value, succeeded⟩ := ends.succeeded more
      cases last.symm.trans succeeded
    · have left : c.policy.attemptLimit - 1 - n = 0 := by omega
      rw [left]
      exact runFrom_failed_last exhausted last

structure Foretold (c : Course σ α) (Before After : Nat → σ → Prop)
    (foretold : Nat → Except Failure α) : Prop where
  start : Before 0 c.start
  attempt : ∀ n s, Before n s → ((c.attempt (UInt32.ofNat (n + 1))).run s).1 = foretold n ∧
    After n ((c.attempt (UInt32.ofNat (n + 1))).run s).2
  next : ∀ n s failure, After n s → Before (n + 1) ((c.pause (n + 1) failure).run s).2

theorem Foretold.exists_end {c : Course σ α} {Before After : Nat → σ → Prop}
    {foretold : Nat → Except Failure α} (known : c.Foretold Before After foretold) :
    ∃ n < c.policy.attemptLimit, (∀ i < n, ∃ failure, foretold i = .error failure) ∧
      (n + 1 < c.policy.attemptLimit → ∃ value, foretold n = .ok value) ∧
      c.run.1 = c.conclude (foretold n) ∧ After n c.run.2 := by
  obtain ⟨n, ends⟩ := c.exists_endsAfter
  have before (i : Nat) (le : i ≤ n) : Before i (c.stateAfter i) := by
    induction i with
    | zero => exact known.start
    | succ i ih =>
      obtain ⟨failure, failed⟩ := ends.failed i le
      rw [stateAfter_succ failed]
      exact known.next i _ failure (known.attempt i _ (ih (Nat.le_of_succ_le le))).2
  have same (i : Nat) (le : i ≤ n) : (c.outcome i).1 = foretold i :=
    (known.attempt i _ (before i le)).1
  refine ⟨n, ends.within, ?_, ?_, ?_, ?_⟩
  · intro i less
    rw [← same i (Nat.le_of_lt less)]
    exact ends.failed i less
  · rw [← same n (Nat.le_refl n)]
    exact ends.succeeded
  · rw [run_eq ends, same n (Nat.le_refl n)]
  · rw [run_eq ends]
    exact (known.attempt n _ (before n (Nat.le_refl n))).2

end Course

end SecretResolver.Retry
