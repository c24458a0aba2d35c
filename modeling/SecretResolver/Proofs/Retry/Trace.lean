import SecretResolver.Proofs.Retry.Course

set_option autoImplicit false

namespace SecretResolver.Retry

inductive Event where
  | attempt (number : Nat)
  | entry (entry : Log.Entry)
  | sleep (duration : Duration)
  deriving DecidableEq, Repr

structure Traced (σ : Type) where
  state : σ
  events : List Event

def noted {σ β : Type} (event : Event) (act : StateM σ β) : StateM (Traced σ) β := fun t =>
  let (result, state) := act.run t.state
  (result, { state, events := t.events ++ [event] })

variable {σ α : Type} [Log.Logger (StateM σ)]

instance : Log.Logger (StateM (Traced σ)) where
  write entry := noted (.entry entry) (Log.Logger.write entry)

def retried (r : Retry) (failure : Nat → Failure) (n : Nat) : List Event :=
  (List.range n).flatMap fun i =>
    [.attempt (i + 1), .entry (r.warning (i + 1) (failure i)), .sleep r.delay]

theorem retried_succ (r : Retry) (failure : Nat → Failure) (n : Nat) :
    r.retried failure (n + 1) = r.retried failure n ++
      [.attempt (n + 1), .entry (r.warning (n + 1) (failure n)), .sleep r.delay] := by
  simp [retried, List.range_succ]

namespace Course

def traced (c : Course σ α) : Course (Traced σ) α where
  policy := c.policy
  sleep duration := noted (.sleep duration) (c.sleep duration)
  attempt number := noted (.attempt number.toNat) (c.attempt number)
  start := { state := c.start, events := [] }

theorem outcome_traced {c : Course σ α} {n : Nat} {events : List Event}
    (within : n + 1 ≤ c.policy.attemptLimit)
    (before : c.traced.stateAfter n = ⟨c.stateAfter n, events⟩) :
    c.traced.outcome n =
      ((c.outcome n).1, ⟨(c.outcome n).2, events ++ [.attempt (n + 1)]⟩) := by
  rw [outcome, before]
  change ((c.outcome n).1, (⟨_, events ++ [.attempt (UInt32.ofNat (n + 1)).toNat]⟩ : Traced σ)) = _
  rw [toNat_ofNat_of_le_attemptLimit within]
  rfl

theorem stateAfter_traced {c : Course σ α} {failure : Nat → Failure} {n : Nat}
    (within : n ≤ c.policy.attemptLimit)
    (failed : ∀ i < n, (c.outcome i).1 = .error (failure i)) :
    c.traced.stateAfter n = ⟨c.stateAfter n, c.policy.retried failure n⟩ := by
  induction n with
  | zero => rfl
  | succ n ih =>
    have before := ih (Nat.le_of_succ_le within) fun i less => failed i (Nat.lt_succ_of_lt less)
    have attempted := outcome_traced within before
    have last := failed n (Nat.lt_succ_self n)
    have last_traced : (c.traced.outcome n).1 = .error (failure n) := by rw [attempted, last]
    rw [stateAfter_succ last_traced, stateAfter_succ last, attempted, retried_succ]
    change (⟨_, _ ++ [_] ++ [_] ++ [_]⟩ : Traced σ) = _
    simp only [List.append_assoc, List.cons_append, List.nil_append]
    rfl

theorem EndsAfter.exists_failures {c : Course σ α} {n : Nat} (ends : c.EndsAfter n) :
    ∃ failure : Nat → Failure, ∀ i < n, (c.outcome i).1 = .error (failure i) := by
  have each (i : Nat) : ∃ failure, i < n → (c.outcome i).1 = .error failure := by
    by_cases less : i < n
    · obtain ⟨failure, failed⟩ := ends.failed i less
      exact ⟨failure, fun _ => failed⟩
    · exact ⟨.config "", fun less' => absurd less' less⟩
  exact Classical.skolem.1 each

theorem EndsAfter.outcome_traced {c : Course σ α} {n : Nat} {failure : Nat → Failure}
    (ends : c.EndsAfter n) (failed : ∀ i < n, (c.outcome i).1 = .error (failure i)) {i : Nat}
    (le : i ≤ n) : c.traced.outcome i =
      ((c.outcome i).1, ⟨(c.outcome i).2, c.policy.retried failure i ++ [.attempt (i + 1)]⟩) := by
  have within := ends.within
  apply Course.outcome_traced (by omega)
  exact stateAfter_traced (by omega) fun j less => failed j (by omega)

theorem EndsAfter.traced {c : Course σ α} {n : Nat} (ends : c.EndsAfter n) :
    c.traced.EndsAfter n := by
  obtain ⟨failure, failed⟩ := ends.exists_failures
  have same {i : Nat} (le : i ≤ n) : (c.traced.outcome i).1 = (c.outcome i).1 :=
    congrArg Prod.fst (ends.outcome_traced failed le)
  refine ⟨?_, ends.within, ?_⟩
  · intro i less
    rw [same (Nat.le_of_lt less)]
    exact ends.failed i less
  · intro more
    rw [same (Nat.le_refl n)]
    exact ends.succeeded more

theorem run_trace (c : Course σ α) : ∃ (n : Nat) (failure : Nat → Failure),
    n < c.policy.attemptLimit ∧
    (∀ i < n, (c.outcome i).1 = .error (failure i)) ∧
    (n + 1 < c.policy.attemptLimit → ∃ value, (c.outcome n).1 = .ok value) ∧
    c.traced.run.2.events = c.policy.retried failure n ++ [.attempt (n + 1)] ∧
    c.traced.run.1 = (match (c.outcome n).1 with
      | .ok value => .ok value
      | .error last => .error (.authentication c.policy.maxAttempts last.message)) ∧
    c.policy.maxAttempts.toNat = c.policy.attemptLimit ∧
    c.run = (c.traced.run.1, (c.outcome n).2) ∧ c.traced.run.2.state = (c.outcome n).2 := by
  obtain ⟨n, ends⟩ := c.exists_endsAfter
  obtain ⟨failure, failed⟩ := ends.exists_failures
  have result := run_eq ends.traced
  rw [ends.outcome_traced failed (Nat.le_refl n)] at result
  refine ⟨n, failure, ends.within, failed, ends.succeeded, ?_, ?_, c.policy.toNat_maxAttempts, ?_,
    ?_⟩
  · rw [result]
  · rw [result]
    cases (c.outcome n).1 <;> rfl
  · rw [result, run_eq ends]
    cases (c.outcome n).1 <;> rfl
  · rw [result]

end Course

end SecretResolver.Retry
