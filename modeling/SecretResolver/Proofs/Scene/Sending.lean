import SecretResolver.Proofs.Retry.Counted
import SecretResolver.Proofs.Scene.Passage

set_option autoImplicit false

namespace SecretResolver

def Sends {α : Type} (Sent : Http.Request → Prop) (Result : α → Prop) (act : StateM Scene α) :
    Prop :=
  ∀ s, (∃ sent, (act.run s).2.requests = s.requests ++ sent ∧ ∀ request ∈ sent, Sent request) ∧
    Result (act.run s).1

def IfOk {ε α : Type} (Good : α → Prop) (result : Except ε α) : Prop :=
  ∀ value, result = .ok value → Good value

namespace IfOk

variable {ε α β : Type} {Good : α → Prop} {Good' : β → Prop}

theorem ok {value : α} (good : Good value) : IfOk Good (.ok value : Except ε α) := by
  rintro _ ⟨⟩
  exact good

theorem error (failure : ε) : IfOk Good (.error failure) := by
  rintro _ ⟨⟩

theorem bind {result : Except ε α} {f : α → Except ε β} (good : IfOk Good result)
    (next : ∀ value, Good value → IfOk Good' (f value)) : IfOk Good' (result.bind f) := by
  cases result with
  | error failure => exact error failure
  | ok value => exact next value (good value rfl)

end IfOk

namespace Sends

variable {α β : Type} {Sent : Http.Request → Prop} {Result : α → Prop} {Result' : β → Prop}

theorem quiet {act : StateM Scene α} (silent : ∀ s, (act.run s).2.requests = s.requests)
    (result : ∀ s, Result (act.run s).1) : Sends Sent Result act := by
  intro s
  refine ⟨⟨[], ?_, by simp⟩, result s⟩
  rw [silent, List.append_nil]

theorem pure {value : α} (result : Result value) : Sends Sent Result (Pure.pure value) :=
  quiet (fun _ => rfl) fun _ => result

theorem bind {act : StateM Scene α} {next : α → StateM Scene β} (first : Sends Sent Result act)
    (each : ∀ value, Result value → Sends Sent Result' (next value)) :
    Sends Sent Result' (act >>= next) := by
  intro s
  obtain ⟨⟨sent, requests_eq, allowed⟩, result⟩ := first s
  obtain ⟨⟨sent', requests_eq', allowed'⟩, result'⟩ := each _ result (act.run s).2
  refine ⟨⟨sent ++ sent', ?_, List.forall_mem_append.2 ⟨allowed, allowed'⟩⟩, result'⟩
  rw [← List.append_assoc, ← requests_eq]
  exact requests_eq'

theorem map {act : StateM Scene α} {f : α → β} (first : Sends Sent Result act)
    (each : ∀ value, Result value → Result' (f value)) :
    Sends Sent Result' (do return f (← act)) :=
  first.bind fun value result => pure (each value result)

theorem write (entry : Log.Entry) :
    Sends Sent (fun _ => True) (Log.Logger.write entry : StateM Scene Unit) :=
  quiet (fun _ => rfl) fun _ => trivial

theorem sleep (duration : Duration) :
    Sends Sent (fun _ => True) (Host.sleep duration : StateM Scene Unit) :=
  quiet (fun s => (Scene.Passage.sleep s).requests_eq.trans (List.append_nil _)) fun _ => trivial

theorem fileText (path : String) :
    Sends Sent (fun _ => True) (Host.fileText path : StateM Scene (Except Failure String)) :=
  quiet (fun _ => rfl) fun _ => trivial

-- The pauses send nothing, and a failure that ends the attempts has no value.
theorem runFrom (r : Retry) {Good : α → Prop} {attempt : UInt32 → StateM Scene (Except Failure α)}
    (each : ∀ number, Sends Sent (IfOk Good) (attempt number)) (current : UInt32) (left : Nat) :
    Sends Sent (IfOk Good) (r.runFrom Host.sleep attempt current left) := by
  induction left generalizing current with
  | zero =>
    refine (each current).bind fun result good => ?_
    cases result with
    | error failure => exact pure (.error _)
    | ok value => exact pure good
  | succ left ih =>
    refine (each current).bind fun result good => ?_
    cases result with
    | error failure => exact (write _).bind fun _ _ => (sleep _).bind fun _ _ => ih _
    | ok value => exact pure good

theorem run (r : Retry) {Good : α → Prop} {attempt : UInt32 → StateM Scene (Except Failure α)}
    (each : ∀ number, Sends Sent (IfOk Good) (attempt number)) :
    Sends Sent (IfOk Good) (r.run Host.sleep attempt) := by
  rw [Retry.run_eq_runFrom]
  exact runFrom r each _ _

end Sends

end SecretResolver
