import SecretResolver.Proofs.Secrecy.Alike
import SecretResolver.Settings.Draft

set_option autoImplicit false

namespace SecretResolver

inductive Choice.Alike : Choice → Choice → Prop where
  | same (choice : Choice) : Alike choice choice
  | credentials {c c' : Credentials} (alike : c.Alike c') : Alike (.credentials c) (.credentials c')

namespace Draft

inductive Alike : Draft → Draft → Prop where
  | same (d : Draft) : Alike d d
  | credentials (d : Draft) {c c' : Credentials} (alike : c.Alike c') :
      Alike { d with vault.credentials := some c } { d with vault.credentials := some c' }

theorem choose_of_other {x : Choice} (other : ∀ c, x ≠ .credentials c) (d : Draft)
    (c : Credentials) : choose { d with vault.credentials := some c } x =
      { d.choose x with vault.credentials := some c } := by
  cases x <;> first | rfl | exact absurd rfl (other _)

theorem Alike.choose {d d' : Draft} {x x' : Choice} (drafts : d.Alike d') (choices : x.Alike x') :
    (d.choose x).Alike (d'.choose x') := by
  cases choices with
  | credentials alike =>
    cases drafts with
    | same d => exact .credentials d alike
    | credentials d _ => exact .credentials d alike
  | same =>
    cases drafts with
    | same d => exact .same _
    | credentials d alike =>
      by_cases replaced : ∃ c, x = .credentials c
      · obtain ⟨c, rfl⟩ := replaced
        exact .same _
      · have other (c : Credentials) : x ≠ .credentials c := fun same => replaced ⟨c, same⟩
        rw [choose_of_other other, choose_of_other other]
        exact .credentials (d.choose x) alike

theorem alike_foldl {choices choices' : List Choice}
    (alike : List.Forall₂ Choice.Alike choices choices') {d d' : Draft} (drafts : d.Alike d') :
    (choices.foldl Draft.choose d).Alike (choices'.foldl Draft.choose d') := by
  induction alike generalizing d d' with
  | nil => exact drafts
  | cons first rest ih => exact ih (drafts.choose first)

theorem agree_store (d : Draft) {c c' : Credentials} (alike : c.Alike c') (kind : StoreKind) :
    Agree StoreSettings.Alike (store { d with vault.credentials := some c } kind)
      (store { d with vault.credentials := some c' } kind) := by
  cases kind with
  | environment => exact .ok .environment
  | jsonFile => exact .refl .refl _
  | vault =>
    cases given : d.vault.host with
    | none =>
      simp only [store, VaultOptions.settings, given]
      exact .error _
    | some host =>
      simp only [store, VaultOptions.settings, given]
      exact .ok (.vault _ alike)

theorem Alike.agree_settings {d d' : Draft} (drafts : d.Alike d') :
    Agree Settings.Alike d.settings d'.settings := by
  cases drafts with
  | same d => exact .refl .refl _
  | credentials d alike =>
    unfold settings
    refine Agree.bind (S := Eq) (.refl (fun _ => rfl) _) ?_
    rintro kind _ rfl
    cases d.mapping with
    | none => exact .error _
    | some source =>
      refine Agree.bind (S := Eq) (.refl (fun _ => rfl) _) ?_
      rintro mapping _ rfl
      refine ((agree_store d alike kind).mapError _).bind fun store store' same => ?_
      simp only [Settings.check, ← same.problem?_eq]
      cases store.problem? with
      | some problem => exact .error _
      | none => exact .ok ⟨rfl, same⟩

theorem agree_settings_ofChoices {choices choices' : List Choice}
    (alike : List.Forall₂ Choice.Alike choices choices') :
    Agree Settings.Alike (ofChoices choices).settings (ofChoices choices').settings :=
  (alike_foldl alike (.same {})).agree_settings

end Draft

namespace Settings

theorem agree_make (source : String) {store store' : StoreSettings} (alike : store.Alike store') :
    Agree Alike (make source store) (make source store') := by
  refine Agree.bind (S := Eq) (.refl (fun _ => rfl) _) ?_
  rintro mapping _ rfl
  simp only [check, ← alike.problem?_eq]
  cases store.problem? with
  | some problem => exact .error _
  | none => exact .ok ⟨rfl, alike⟩

def loaded (path : String) (settings : Settings) : Log.Entry where
  level := .debug
  message := "Loaded client config"
  fields := [("path", path), ("backend", settings.store.kind.name)]

variable [Libraries]

theorem agree_ofText {text text' : String} (alike : SettingsDocument.TextsAlike text text') :
    Agree Alike (ofText text) (ofText text') := by
  refine (alike.mapError _).bind fun d d' same => ?_
  rw [ofDocument, ofDocument, same.mapping_eq]
  exact agree_make _ same.store

theorem run_load (path : String) (s : Scene) :
    (load path : StateM Scene _).run s =
      match ((s.files.text path).mapError fun fault => Failure.file path fault.message).bind
        ofText with
      | .error failure => (.error failure, s)
      | .ok settings => (.ok settings, s.record (loaded path settings)) := by
  have read : (Host.fileText path : StateM Scene _).run s =
      ((s.files.text path).mapError fun fault => Failure.file path fault.message, s) := rfl
  unfold load
  rw [Scene.run_bind, read]
  generalize (s.files.text path).mapError (fun fault => Failure.file path fault.message) = content
  cases content.bind ofText <;> rfl

theorem alike_load {path : String} {s s' : Scene}
    (alike : Agree SettingsDocument.TextsAlike (s.files.text path) (s'.files.text path)) :
    let given := (load path : StateM Scene _).run s
    let given' := (load path : StateM Scene _).run s'
    Agree Alike given.1 given'.1 ∧ ∃ entries,
      given.2 = { s with log := s.log ++ entries } ∧
        given'.2 = { s' with log := s'.log ++ entries } := by
  have read := (alike.mapError fun fault => Failure.file path fault.message).bind
    fun _ _ same => agree_ofText same
  rw [run_load, run_load]
  revert read
  generalize Except.bind _ _ = result
  generalize Except.bind _ _ = result'
  intro read
  cases read with
  | error failure => exact ⟨.error failure, [], by simp⟩
  | @ok settings settings' same =>
    refine ⟨.ok same, [loaded path settings], rfl, ?_⟩
    rw [loaded, same.store.kind_eq]
    rfl

end Settings

end SecretResolver
