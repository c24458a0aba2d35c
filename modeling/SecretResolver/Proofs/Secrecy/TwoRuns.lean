import SecretResolver.Proofs.Retry.Counted
import SecretResolver.Proofs.Scene.Files
import SecretResolver.Proofs.Scene.Passage

set_option autoImplicit false

namespace SecretResolver

inductive Agree {ε α α' : Type} (S : α → α' → Prop) : Except ε α → Except ε α' → Prop where
  | error (failure : ε) : Agree S (.error failure) (.error failure)
  | ok {value : α} {value' : α'} (related : S value value') : Agree S (.ok value) (.ok value')

namespace Agree

variable {ε ε' α α' β β' : Type} {S : α → α' → Prop} {T : β → β' → Prop}
  {result : Except ε α} {result' : Except ε α'}

theorem refl {S : α → α → Prop} (same : ∀ value, S value value) (result : Except ε α) :
    Agree S result result := by
  cases result with
  | error failure => exact .error failure
  | ok value => exact .ok (same value)

theorem error_eq {failure failure' : ε}
    (agree : Agree S (.error failure) (.error failure')) : failure = failure' := by
  cases agree with
  | error => rfl

theorem mono {S S' : α → α' → Prop} (agree : Agree S result result')
    (weaker : ∀ value value', S value value' → S' value value') : Agree S' result result' := by
  cases agree with
  | error failure => exact .error failure
  | ok related => exact .ok (weaker _ _ related)

theorem bind {f : α → Except ε β} {f' : α' → Except ε β'} (agree : Agree S result result')
    (next : ∀ value value', S value value' → Agree T (f value) (f' value')) :
    Agree T (result.bind f) (result'.bind f') := by
  cases agree with
  | error failure => exact .error failure
  | ok related => exact next _ _ related

theorem map {f : α → β} {f' : α' → β'} (agree : Agree S result result')
    (next : ∀ value value', S value value' → T (f value) (f' value')) :
    Agree T (result.map f) (result'.map f') := by
  cases agree with
  | error failure => exact .error failure
  | ok related => exact .ok (next _ _ related)

theorem mapError (f : ε → ε') (agree : Agree S result result') :
    Agree S (result.mapError f) (result'.mapError f) := by
  cases agree with
  | error failure => exact .error (f failure)
  | ok related => exact .ok related

theorem map_eq {f : α → β} {f' : α' → β} (agree : Agree S result result')
    (same : ∀ value value', S value value' → f value = f' value') :
    result.map f = result'.map f' := by
  cases agree with
  | error failure => rfl
  | ok related => exact congrArg Except.ok (same _ _ related)

end Agree

def Grows {α : Type} (act : StateM Scene α) : Prop :=
  ∀ s, s.requests.length ≤ (act.run s).2.requests.length

namespace Grows

variable {α β : Type}

theorem pure (value : α) : Grows (Pure.pure value) :=
  fun _ => Nat.le_refl _

theorem bind {act : StateM Scene α} {next : α → StateM Scene β} (first : Grows act)
    (each : ∀ value, Grows (next value)) : Grows (act >>= next) :=
  fun s => Nat.le_trans (first s) (each _ _)

theorem map {act : StateM Scene α} {f : α → β} (first : Grows act) :
    Grows (do return f (← act)) :=
  first.bind fun _ => pure _

theorem write (entry : Log.Entry) : Grows (Log.Logger.write entry : StateM Scene Unit) :=
  fun _ => Nat.le_refl _

theorem of_passage {act : StateM Scene α} (passes : ∀ s, ∃ requests entries,
    Scene.Passage s (act.run s).2 requests entries) : Grows act := by
  intro s
  obtain ⟨requests, entries, passage⟩ := passes s
  rw [passage.requests_eq, List.length_append]
  exact Nat.le_add_right _ _

theorem sleep (duration : Duration) : Grows (Host.sleep duration : StateM Scene Unit) :=
  of_passage fun s => ⟨[], [], Scene.Passage.sleep s⟩

theorem pause (entry : Log.Entry) (duration : Duration) {next : StateM Scene α}
    (later : Grows next) :
    Grows (do Log.Logger.write entry; Host.sleep duration; next) :=
  (write entry).bind fun _ => (sleep duration).bind fun _ => later

theorem runFrom (r : Retry) {attempt : UInt32 → StateM Scene (Except Failure α)}
    (each : ∀ number, Grows (attempt number)) (current : UInt32) (left : Nat) :
    Grows (r.runFrom Host.sleep attempt current left) := by
  induction left generalizing current with
  | zero =>
    refine (each current).bind fun result => ?_
    cases result with
    | error failure => exact pure _
    | ok value => exact pure _
  | succ left ih =>
    refine (each current).bind fun result => ?_
    cases result with
    | error failure => exact pause _ _ (ih _)
    | ok value => exact pure _

end Grows

def Related (R : Scene → Scene → Prop) (limit : Nat) {α α' : Type} (S : α → α' → Prop)
    (act : StateM Scene α) (act' : StateM Scene α') : Prop :=
  ∀ s s', R s s' → (act.run s).2.requests.length ≤ limit →
    S (act.run s).1 (act'.run s').1 ∧ R (act.run s).2 (act'.run s').2

namespace Related

variable {R : Scene → Scene → Prop} {limit : Nat}

section

variable {α α' β β' : Type} {S : α → α' → Prop} {T : β → β' → Prop}

theorem pure {value : α} {value' : α'} (related : S value value') :
    Related R limit S (Pure.pure value) (Pure.pure value') :=
  fun _ _ alike _ => ⟨related, alike⟩

theorem bind {act : StateM Scene α} {act' : StateM Scene α'} {next : α → StateM Scene β}
    {next' : α' → StateM Scene β'} (first : Related R limit S act act')
    (grows : ∀ value, Grows (next value))
    (each : ∀ value value', S value value' → Related R limit T (next value) (next' value')) :
    Related R limit T (act >>= next) (act' >>= next') := by
  intro s s' alike within
  have before := Nat.le_trans (grows (act.run s).1 (act.run s).2) within
  obtain ⟨related, alike⟩ := first s s' alike before
  exact each _ _ related _ _ alike within

theorem map {act : StateM Scene α} {act' : StateM Scene α'} {f : α → β} {f' : α' → β'}
    (first : Related R limit S act act')
    (each : ∀ value value', S value value' → T (f value) (f' value')) :
    Related R limit T (do return f (← act)) (do return f' (← act')) :=
  first.bind (fun _ => .pure _) fun _ _ related => .pure (each _ _ related)

end

theorem fileText {S : String → String → Prop} {path : String}
    (sees : ∀ s s', R s s' → Agree S (s.files.text path) (s'.files.text path)) :
    Related R limit (Agree S) (Host.fileText path) (Host.fileText path) :=
  fun s s' alike _ => ⟨(sees s s' alike).mapError _, alike⟩

end Related

structure Blind (R : Scene → Scene → Prop) : Prop where
  record : ∀ {s s' : Scene}, R s s' → ∀ entry, R (s.record entry) (s'.record entry)
  sleep : ∀ {s s' : Scene}, R s s' → R s.sleep s'.sleep

namespace Related

variable {R : Scene → Scene → Prop} {limit : Nat} (blind : Blind R)
include blind

theorem write (entry : Log.Entry) :
    Related R limit Eq (Log.Logger.write entry : StateM Scene Unit) (Log.Logger.write entry) :=
  fun _ _ alike _ => ⟨rfl, blind.record alike entry⟩

theorem sleep (duration : Duration) :
    Related R limit Eq (Host.sleep duration : StateM Scene Unit) (Host.sleep duration) :=
  fun _ _ alike _ => ⟨rfl, blind.sleep alike⟩

theorem runFrom (r : Retry) {α α' : Type} {S : α → α' → Prop}
    {attempt : UInt32 → StateM Scene (Except Failure α)}
    {attempt' : UInt32 → StateM Scene (Except Failure α')}
    (grows : ∀ number, Grows (attempt number))
    (each : ∀ number, Related R limit (Agree S) (attempt number) (attempt' number))
    (current : UInt32) (left : Nat) :
    Related R limit (Agree S) (r.runFrom Host.sleep attempt current left)
      (r.runFrom Host.sleep attempt' current left) := by
  induction left generalizing current with
  | zero =>
    refine (each current).bind ?_ fun result result' agree => ?_
    · intro result
      cases result <;> exact .pure _
    · cases agree with
      | error failure => exact .pure (.error _)
      | ok related => exact .pure (.ok related)
  | succ left ih =>
    have later (current : UInt32) := Grows.runFrom r grows current left
    refine (each current).bind ?_ fun result result' agree => ?_
    · intro result
      cases result with
      | error failure => exact .pause _ _ (later _)
      | ok value => exact .pure _
    · cases agree with
      | error failure =>
        refine (write blind _).bind (fun _ => (Grows.sleep _).bind fun _ => later _) fun _ _ _ => ?_
        exact (sleep blind _).bind (fun _ => later _) fun _ _ _ => ih _
      | ok related => exact .pure (.ok related)

theorem run (r : Retry) {α α' : Type} {S : α → α' → Prop}
    {attempt : UInt32 → StateM Scene (Except Failure α)}
    {attempt' : UInt32 → StateM Scene (Except Failure α')}
    (grows : ∀ number, Grows (attempt number))
    (each : ∀ number, Related R limit (Agree S) (attempt number) (attempt' number)) :
    Related R limit (Agree S) (r.run Host.sleep attempt) (r.run Host.sleep attempt') := by
  rw [Retry.run_eq_runFrom, Retry.run_eq_runFrom]
  exact runFrom blind r grows each _ _

end Related

end SecretResolver
