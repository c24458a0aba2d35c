import SecretResolver.Proofs.Resolver.Setup
import SecretResolver.Proofs.Retry.Exhaustion
import SecretResolver.Proofs.Template.Compile
import SecretResolver.Proofs.Vault.Connect

set_option autoImplicit false

namespace SecretResolver

theorem bind_eq_error {ε α β : Type} {act : Except ε α} {f : α → Except ε β} {failure : ε}
    (failed : act >>= f = .error failure) :
    act = .error failure ∨ ∃ value, act = .ok value ∧ f value = .error failure := by
  cases act with
  | error failure' =>
    cases failed
    exact .inl rfl
  | ok value => exact .inr ⟨value, rfl, failed⟩

theorem exists_of_mapError {ε ε' α : Type} {act : Except ε α} {f : ε → ε'} {failure : ε'}
    (failed : act.mapError f = .error failure) : ∃ fault, failure = f fault := by
  cases act with
  | error fault => exact ⟨fault, (Except.error.inj failed).symm⟩
  | ok value => cases failed

inductive Failure.IsFault : Failure → Prop
  | config (problem : String) : IsFault (.config problem)
  | mapping (template reason : String) : IsFault (.mapping template reason)

theorem Settings.Problem.isFault (problem : Settings.Problem) : problem.failure.IsFault :=
  .config problem.message

theorem Settings.check_cases (settings : Settings) :
    (∃ problem : Settings.Problem, settings.check = .error problem.failure) ∨
      settings.check = .ok () := by
  unfold check
  cases settings.store.problem? with
  | none => exact .inr rfl
  | some problem => exact .inl ⟨problem, rfl⟩

theorem Draft.settings_error {draft : Draft} {failure : Failure}
    (failed : draft.settings = .error failure) : failure.IsFault := by
  rcases bind_eq_error failed with failed | ⟨kind, -, failed⟩
  · obtain ⟨problem, rfl⟩ := exists_of_mapError failed
    exact problem.isFault
  cases given : draft.mapping with
  | none =>
    rw [given] at failed
    cases failed
    exact Settings.Problem.isFault .noMapping
  | some source =>
    rw [given] at failed
    rcases bind_eq_error failed with failed | ⟨mapping, -, failed⟩
    · obtain ⟨fault, rfl⟩ := exists_of_mapError failed
      exact .mapping source fault.reason
    rcases bind_eq_error failed with failed | ⟨store, -, failed⟩
    · obtain ⟨problem, rfl⟩ := exists_of_mapError failed
      exact problem.isFault
    rcases bind_eq_error failed with failed | ⟨_, -, failed⟩
    · rcases Settings.check_cases { mapping, store } with ⟨problem, found⟩ | valid
      · rw [found] at failed
        cases failed
        exact problem.isFault
      · rw [valid] at failed
        cases failed
    · cases failed

variable {m : Type → Type} [Monad m] [LawfulMonad m] [Host m]

namespace Vault.Session

theorem connect_token {v : VaultSettings} {token : Secret} (api : Api m)
    (given : v.credentials = .token token) :
    connect v api = (do
      Log.Logger.write (authenticating v 1)
      Log.Logger.write (authenticated v)
      return .ok { api, token, valueField := v.valueField }) := by
  have attempts : attempt v api = fun number => do
      Log.Logger.write (authenticating v number)
      return .ok token := by
    funext number
    unfold attempt authenticate
    rw [given]
    simp only [Log.debug, authenticating, given]
  unfold connect
  rw [attempts, Retry.run_of_ok]
  simp only [bind_assoc, pure_bind]
  rfl

theorem failsOnlyAs_connect (v : VaultSettings) (api : Api m) :
    FailsOnlyAs (.authentication v.retry.maxAttempts) (connect v api) := by
  apply FailsOnlyAs.andThen (v.retry.failsOnlyAs_run Host.sleep (attempt v api))
  · exact fun token => .bind fun _ => .of_ok _
  · exact fun _ => rfl

end Vault.Session

namespace Resolver

section

variable [Libraries]

def IsSetup (settings : Settings) (act : m (Except Failure (Resolver m))) : Prop :=
  let mapping := settings.mapping
  match settings.store with
  | .environment => act = do
    Log.Logger.write (creating settings)
    return .ok { mapping, store := .environment }
  | .jsonFile path => act = do
    Log.Logger.write (creating settings)
    return .ok { mapping, store := .jsonFile { path } }
  | .vault v =>
    let api := (Vault.Server.ofSettings v).api
    match v.credentials with
    | .token token => act = do
      Log.Logger.write (creating settings)
      Log.Logger.write (Vault.authenticating v 1)
      Log.Logger.write (Vault.authenticated v)
      return .ok { mapping, store := .vault { api, token, valueField := v.valueField } }
    | _ => ∃ attempts : UInt32, attempts.toNat = min (v.retries.toNat + 1) (UInt32.size - 1) ∧
      FailsOnlyAs (.authentication attempts) act

omit [LawfulMonad m] in
theorem ofSettings_of_check {settings : Settings} (valid : settings.check = .ok ()) :
    (ofSettings settings : m _) = do
      Log.Logger.write (creating settings)
      return (← openStore settings.store).map fun store =>
        { mapping := settings.mapping, store } := by
  unfold ofSettings
  rw [valid]
  rfl

theorem failsOnlyAs_ofSettings_vault {mapping : Template} {v : VaultSettings}
    (valid : Settings.check { mapping, store := .vault v } = .ok ()) :
    FailsOnlyAs (.authentication v.retry.maxAttempts)
      (ofSettings { mapping, store := .vault v } : m _) := by
  rw [ofSettings_of_check valid]
  exact .bind fun _ => .map _ (.map _ (Vault.Session.failsOnlyAs_connect v _))

theorem exists_failsOnlyAs_ofSettings {settings : Settings} (valid : settings.check = .ok ()) :
    ∃ attempts, FailsOnlyAs (.authentication attempts) (ofSettings settings : m _) := by
  obtain ⟨mapping, store⟩ := settings
  cases store with
  | vault v => exact ⟨_, failsOnlyAs_ofSettings_vault valid⟩
  | environment =>
    rw [ofSettings_of_check valid]
    exact ⟨0, .bind fun _ => .map _ (.of_ok _)⟩
  | jsonFile path =>
    rw [ofSettings_of_check valid]
    exact ⟨0, .bind fun _ => .map _ (.of_ok _)⟩

theorem isSetup_ofSettings {settings : Settings} (valid : settings.check = .ok ()) :
    IsSetup settings (ofSettings settings : m _) := by
  obtain ⟨mapping, store⟩ := settings
  cases store with
  | environment => simp [ofSettings_of_check valid, IsSetup, openStore, Except.map]
  | jsonFile path => simp [ofSettings_of_check valid, IsSetup, openStore, Except.map]
  | vault v =>
    have attempts := v.retry.toNat_maxAttempts
    have limited := failsOnlyAs_ofSettings_vault (m := m) valid
    cases given : v.credentials with
    | token token =>
      simp [ofSettings_of_check valid, IsSetup, given, openStore,
        Vault.Session.connect_token _ given, Except.map]
    | appId appId userId =>
      simp only [IsSetup, given]
      exact ⟨_, attempts, limited⟩
    | appIdFile appId path =>
      simp only [IsSetup, given]
      exact ⟨_, attempts, limited⟩
    | appRole roleId secretId =>
      simp only [IsSetup, given]
      exact ⟨_, attempts, limited⟩

theorem faults_before_effects :
    (∀ settings : Settings,
      (∃ problem, settings.check = .error (.config problem) ∧
        (ofSettings settings : m _) = pure (.error (.config problem))) ∨
      settings.check = .ok () ∧ IsSetup settings (ofSettings settings : m _)) ∧
    ∀ choices : List Choice, let draft := Draft.ofChoices choices
      (∃ failure, failure.IsFault ∧ draft.settings = .error failure ∧
        (ofDraft draft : m _) = pure (.error failure)) ∨
      ∃ settings, draft.settings = .ok settings ∧ settings.check = .ok () ∧
        IsSetup settings (ofDraft draft : m _) := by
  constructor
  · intro settings
    rcases settings.check_cases with ⟨problem, found⟩ | valid
    · refine .inl ⟨problem.message, found, ?_⟩
      rw [ofSettings, found]
      rfl
    · exact .inr ⟨valid, isSetup_ofSettings valid⟩
  · intro choices draft
    cases made : draft.settings with
    | error failure =>
      refine .inl ⟨failure, Draft.settings_error made, rfl, ?_⟩
      rw [ofDraft, made]
    | ok settings =>
      obtain ⟨_, _, accepted⟩ := Draft.exists_accepted made
      refine .inr ⟨settings, rfl, accepted.valid, ?_⟩
      rw [ofDraft, made]
      exact isSetup_ofSettings accepted.valid

end

def tokenVault : Settings where
  mapping := .byId
  store := .vault { host := "http://vault.test", credentials := .token ⟨"token"⟩ }

theorem made_with_token : LawfulMonad (StateM Scene) ∧ ∃ r,
    (ofSettings tokenVault : StateM Scene _).run {} =
      (.ok r, { log := [creating tokenVault,
        ⟨.debug, "Authenticating to vault",
          [("host", "http://vault.test"), ("method", "token"), ("attempt", "1")]⟩,
        ⟨.info, "Authenticated to vault",
          [("host", "http://vault.test"), ("method", "token")]⟩] }) := by
  refine ⟨inferInstance, ?_⟩
  rcases (faults_before_effects (m := StateM Scene)).1 tokenVault with
    ⟨problem, found, -⟩ | ⟨-, setup⟩
  · have valid : tokenVault.check = .ok () := by decide
    rw [valid] at found
    cases found
  · rw [setup]
    exact ⟨_, rfl⟩

end Resolver

end SecretResolver
