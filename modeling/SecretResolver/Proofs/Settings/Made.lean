import SecretResolver.Proofs.Scene.Passage
import SecretResolver.Settings.Document
import SecretResolver.Settings.Draft

set_option autoImplicit false

namespace SecretResolver

theorem exists_of_bind_ok {ε α β : Type} {act : Except ε α} {f : α → Except ε β} {result : β}
    (ok : act >>= f = .ok result) : ∃ value, act = .ok value ∧ f value = .ok result := by
  cases act with
  | error failure => cases ok
  | ok value => exact ⟨value, rfl, ok⟩

theorem mapError_eq_ok_iff {ε ε' α : Type} {act : Except ε α} {f : ε → ε'} {value : α} :
    act.mapError f = .ok value ↔ act = .ok value := by
  cases act <;> constructor <;> intro same <;> cases same <;> rfl

theorem Template.compiled_eq_ok_iff {source : String} {t : Template} :
    compiled source = .ok t ↔ compile source = .ok t :=
  mapError_eq_ok_iff

namespace Settings

theorem compile_of_make {source : String} {store : StoreSettings} {settings : Settings}
    (made : make source store = .ok settings) : Template.compile source = .ok settings.mapping := by
  obtain ⟨mapping, compiled, made⟩ := exists_of_bind_ok made
  obtain ⟨_, -, made⟩ := exists_of_bind_ok made
  cases made
  exact Template.compiled_eq_ok_iff.1 compiled

theorem check_of_make {source : String} {store : StoreSettings} {settings : Settings}
    (made : make source store = .ok settings) : settings.check = .ok () := by
  obtain ⟨_, -, made⟩ := exists_of_bind_ok made
  obtain ⟨_, valid, made⟩ := exists_of_bind_ok made
  cases made
  exact valid

variable [Libraries]

theorem compile_of_ofText {text : String} {document : SettingsDocument} {settings : Settings}
    (read : SettingsDocument.read text = .ok document) (made : ofText text = .ok settings) :
    Template.compile document.mapping = .ok settings.mapping := by
  obtain ⟨document', read', made⟩ := exists_of_bind_ok made
  rw [read] at read'
  cases read'
  exact compile_of_make made

theorem load_eq (path : String) (s : Scene) :
    ((load path : StateM Scene _).run s).1 =
      ((Host.fileText path : StateM Scene _).run s).1.bind ofText := by
  unfold load
  rw [Scene.run_bind]
  generalize (Host.fileText path : StateM Scene _).run s = read
  cases read.1.bind ofText <;> rfl

end Settings

structure Draft.Accepted (draft : Draft) (kind : StoreKind) (source : String)
    (settings : Settings) : Prop where
  kind_eq : draft.kind = .ok kind
  mapping_eq : draft.mapping = some source
  compiled : Template.compile source = .ok settings.mapping
  store_eq : draft.store kind = .ok settings.store
  valid : settings.check = .ok ()

theorem Draft.exists_accepted {draft : Draft} {settings : Settings}
    (made : draft.settings = .ok settings) :
    ∃ kind source, draft.Accepted kind source settings := by
  obtain ⟨kind, kind_eq, made⟩ := exists_of_bind_ok made
  cases given : draft.mapping with
  | none =>
    rw [given] at made
    cases made
  | some source =>
    rw [given] at made
    obtain ⟨mapping, compiled, made⟩ := exists_of_bind_ok made
    obtain ⟨store, store_eq, made⟩ := exists_of_bind_ok made
    obtain ⟨_, valid, made⟩ := exists_of_bind_ok made
    cases made
    exact ⟨kind, source,
      { kind_eq := mapError_eq_ok_iff.1 kind_eq
        mapping_eq := given
        compiled := Template.compiled_eq_ok_iff.1 compiled
        store_eq := mapError_eq_ok_iff.1 store_eq
        valid }⟩

theorem Draft.compile_of_settings {draft : Draft} {settings : Settings}
    (made : draft.settings = .ok settings) : ∃ source, draft.mapping = some source ∧
      Template.compile source = .ok settings.mapping := by
  obtain ⟨_, source, accepted⟩ := exists_accepted made
  exact ⟨source, accepted.mapping_eq, accepted.compiled⟩

end SecretResolver
