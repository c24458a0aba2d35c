import SecretResolver.Proofs.Scene.Passage
import SecretResolver.Proofs.Settings.Made
import SecretResolver.Resolver

set_option autoImplicit false

namespace SecretResolver.Resolver

variable [Libraries]

def creating (settings : Settings) : Log.Entry where
  level := .debug
  message := "Creating secrets client"
  fields := [("backend", settings.store.kind.name), ("mapping", settings.mapping.source)]

theorem run_ofSettings (settings : Settings) (s : Scene) :
    (ofSettings settings : StateM Scene _).run s =
      match settings.check with
      | .error failure => (.error failure, s)
      | .ok () =>
        (((openStore settings.store : StateM Scene _).run (s.record (creating settings))).1.map
            (Resolver.mk settings.mapping),
          ((openStore settings.store : StateM Scene _).run (s.record (creating settings))).2) := by
  unfold ofSettings
  generalize (openStore settings.store : StateM Scene _) = opening
  cases settings.check <;> rfl

theorem mapping_of_ofSettings {settings : Settings} {s s' : Scene}
    {r : Resolver (StateM Scene)}
    (made : (ofSettings settings : StateM Scene _).run s = (.ok r, s')) :
    r.mapping = settings.mapping := by
  rw [run_ofSettings] at made
  generalize (openStore settings.store : StateM Scene _).run (s.record (creating settings)) =
    opened at made
  obtain ⟨opened, s''⟩ := opened
  cases valid : settings.check with
  | error failure =>
    rw [valid] at made
    cases made
  | ok =>
    rw [valid] at made
    cases opened with
    | error failure => cases made
    | ok store =>
      cases made
      rfl

inductive Makes (settings : Settings) :
    StateM Scene (Except Failure (Resolver (StateM Scene))) → Prop where
  | ofSettings : Makes settings (ofSettings settings)
  | ofChoices {choices : List Choice}
      (accepted : (Draft.ofChoices choices).settings = .ok settings) :
      Makes settings (ofDraft (Draft.ofChoices choices))

theorem Makes.eq_ofSettings {settings : Settings}
    {act : StateM Scene (Except Failure (Resolver (StateM Scene)))} (makes : Makes settings act) :
    act = Resolver.ofSettings settings := by
  cases makes with
  | ofSettings => rfl
  | ofChoices accepted => rw [ofDraft, accepted]

inductive Constructed : String → Resolver (StateM Scene) → Prop where
  | ofChoices {choices : List Choice} {source : String} {s s' : Scene}
      {r : Resolver (StateM Scene)} (given : (Draft.ofChoices choices).mapping = some source)
      (built : (ofDraft (Draft.ofChoices choices) : StateM Scene _).run s = (.ok r, s')) :
      Constructed source r
  | ofText {text : String} {document : SettingsDocument} {settings : Settings} {s s' : Scene}
      {r : Resolver (StateM Scene)} (read : SettingsDocument.read text = .ok document)
      (checked : Settings.ofText text = .ok settings)
      (made : (ofSettings settings : StateM Scene _).run s = (.ok r, s')) :
      Constructed document.mapping r
  | ofFile {path text : String} {document : SettingsDocument} {settings : Settings}
      {s s' s'' : Scene} {r : Resolver (StateM Scene)}
      (content : ((Host.fileText path : StateM Scene _).run s).1 = .ok text)
      (read : SettingsDocument.read text = .ok document)
      (loaded : ((Settings.load path : StateM Scene _).run s).1 = .ok settings)
      (made : (ofSettings settings : StateM Scene _).run s' = (.ok r, s'')) :
      Constructed document.mapping r
  | ofMapping {source : String} {mapping : Template} {store : StoreSettings} {s s' : Scene}
      {r : Resolver (StateM Scene)} (compiled : Template.compile source = .ok mapping)
      (made : (ofSettings { mapping, store } : StateM Scene _).run s = (.ok r, s')) :
      Constructed source r

theorem Constructed.compile_eq {source : String} {r : Resolver (StateM Scene)}
    (constructed : Constructed source r) : Template.compile source = .ok r.mapping := by
  cases constructed with
  | ofChoices given built =>
    unfold ofDraft at built
    cases made : (Draft.ofChoices _).settings with
    | error failure =>
      rw [made] at built
      cases built
    | ok settings =>
      rw [made] at built
      obtain ⟨source', given', compiled⟩ := Draft.compile_of_settings made
      rw [given] at given'
      cases given'
      rw [mapping_of_ofSettings built]
      exact compiled
  | ofText read checked made =>
    rw [mapping_of_ofSettings made]
    exact Settings.compile_of_ofText read checked
  | ofFile content read loaded made =>
    rw [Settings.load_eq, content] at loaded
    rw [mapping_of_ofSettings made]
    exact Settings.compile_of_ofText read loaded
  | ofMapping compiled made =>
    rw [mapping_of_ofSettings made]
    exact compiled

end SecretResolver.Resolver
