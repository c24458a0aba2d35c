import SecretResolver.Proofs.Scene.Passage
import SecretResolver.SecretsFile
import SecretResolver.Vault.Server

set_option autoImplicit false

namespace SecretResolver

namespace Scene

def withLog (s : Scene) (log : List Log.Entry) : Scene :=
  { s with log }

def unlogged (s : Scene) : Scene :=
  s.withLog []

theorem withLog_log (s : Scene) : s.withLog s.log = s :=
  rfl

theorem withLog_eq_of_unlogged {s s' : Scene} (same : s.unlogged = s'.unlogged) :
    s.withLog s'.log = s' := by
  have whole : s.unlogged.withLog s'.log = s'.unlogged.withLog s'.log := by rw [same]
  exact whole

theorem exchange_withLog (s : Scene) (log : List Log.Entry) (request : Http.Request) :
    (s.withLog log).exchange request =
      ((s.exchange request).1, (s.exchange request).2.withLog log) := by
  obtain ⟨_, _, _, replies, _, _⟩ := s
  match replies with
  | none => rfl
  | some [] => rfl
  | some (reply :: replies) => rfl

end Scene

def IgnoresLog {α : Type} (act : StateM Scene α) : Prop :=
  ∀ s, ∃ entries, ∀ log, act.run (s.withLog log) =
    ((act.run s).1, (act.run s).2.withLog (log ++ entries))

namespace IgnoresLog

variable {α β : Type}

theorem pure (value : α) : IgnoresLog (Pure.pure value) :=
  fun s => ⟨[], fun log => congrArg (fun log => (value, s.withLog log)) (List.append_nil log).symm⟩

theorem bind {act : StateM Scene α} {next : α → StateM Scene β} (first : IgnoresLog act)
    (each : ∀ value, IgnoresLog (next value)) : IgnoresLog (act >>= next) := by
  intro s
  obtain ⟨entries, run_eq⟩ := first s
  obtain ⟨entries', run_eq'⟩ := each (act.run s).1 (act.run s).2
  refine ⟨entries ++ entries', fun log => ?_⟩
  rw [Scene.run_bind, Scene.run_bind, run_eq, run_eq', List.append_assoc]

theorem map {act : StateM Scene α} {f : α → β} (first : IgnoresLog act) :
    IgnoresLog (do return f (← act)) :=
  first.bind fun _ => pure _

theorem write (entry : Log.Entry) : IgnoresLog (Log.Logger.write entry : StateM Scene Unit) :=
  fun _ => ⟨[entry], fun _ => rfl⟩

theorem fileText (path : String) :
    IgnoresLog (Host.fileText path : StateM Scene (Except Failure String)) :=
  fun s => ⟨[], fun log => congrArg (fun log => (_, s.withLog log)) (List.append_nil log).symm⟩

theorem environmentValue (name : String) :
    IgnoresLog (Host.environmentValue name : StateM Scene (Option ByteArray)) :=
  fun s => ⟨[], fun log => congrArg (fun log => (_, s.withLog log)) (List.append_nil log).symm⟩

theorem exchange (request : Http.Request) :
    IgnoresLog (Host.exchange request : StateM Scene (Except String Http.Reply)) := by
  refine fun s => ⟨[], fun log => ?_⟩
  rw [List.append_nil]
  exact s.exchange_withLog log request

theorem exists_entries {act : StateM Scene α} (ignores : IgnoresLog act) (s : Scene) :
    ∃ entries, (act.run s).2.log = s.log ++ entries ∧ ∀ log, act.run (s.withLog log) =
      ((act.run s).1, (act.run s).2.withLog (log ++ entries)) := by
  obtain ⟨entries, run_eq⟩ := ignores s
  refine ⟨entries, ?_, run_eq⟩
  have own := run_eq s.log
  rw [s.withLog_log] at own
  exact congrArg (fun ended => ended.2.log) own

theorem eq_of_unlogged {act : StateM Scene α} (ignores : IgnoresLog act) {s s' : Scene}
    (same : s.unlogged = s'.unlogged) :
    (act.run s).1 = (act.run s').1 ∧ (act.run s).2.unlogged = (act.run s').2.unlogged := by
  obtain ⟨entries, run_eq⟩ := ignores s
  rw [← Scene.withLog_eq_of_unlogged same, run_eq]
  exact ⟨rfl, rfl⟩

end IgnoresLog

variable [Libraries]

theorem Vault.Server.ignoresLog_exchange (call : Http.Call) :
    IgnoresLog (Server.exchange call : StateM Scene (Except Failure Http.Reply)) := by
  unfold Server.exchange
  cases call.request? with
  | none => exact .pure _
  | some request => exact (IgnoresLog.exchange request).map

theorem SecretsFile.ignoresLog_fetch (f : SecretsFile) (key : String) :
    IgnoresLog (f.fetch key : StateM Scene (Except Failure ByteArray × SecretsFile)) := by
  unfold fetch contents
  refine IgnoresLog.map ?_
  cases f.cache with
  | some contents => exact .pure _
  | none =>
    refine (IgnoresLog.fileText f.path).bind fun text => ?_
    cases text.bind (parsed f.path) with
    | error failure => exact .pure _
    | ok contents => exact (IgnoresLog.write _).bind fun _ => .pure _

end SecretResolver
