import SecretResolver.Proofs.Resolver.Interchange
import SecretResolver.Proofs.Resolver.Steps
import SecretResolver.Proofs.Scene.Logging

set_option autoImplicit false

namespace SecretResolver

namespace Reference

def written (reference : Reference) : StoreKind → Option String
  | .vault => reference.vaultPath
  | .environment => reference.variableName
  | .jsonFile => reference.jsonKey

variable {reference : Reference} {kind : StoreKind}

theorem location?_eq_filter :
    reference.location? kind = (reference.written kind).filter (· ≠ "") := by
  cases kind <;> rfl

theorem location?_eq_some_iff {location : String} : reference.location? kind = some location ↔
    reference.written kind = some location ∧ location ≠ "" := by
  simp [location?_eq_filter, Option.filter_eq_some_iff]

theorem location?_eq_none_iff : reference.location? kind = none ↔
    reference.written kind = none ∨ reference.written kind = some "" := by
  rw [location?_eq_filter]
  cases reference.written kind <;> simp

end Reference

namespace Resolver

section

variable [Libraries]

def OverHttp (r : Resolver (StateM Scene)) : Prop :=
  ∀ session, r.store = .vault session → ∃ server : Vault.Server, session.api = server.api

theorem Constructed.exists_made {source : String} {r : Resolver (StateM Scene)}
    (constructed : Constructed source r) : ∃ settings s, Made settings r s := by
  cases constructed with
  | ofChoices given built =>
    unfold ofDraft at built
    cases made : (Draft.ofChoices _).settings with
    | error failure =>
      rw [made] at built
      cases built
    | ok settings =>
      rw [made] at built
      exact ⟨settings, _, _, built⟩
  | ofText read checked made => exact ⟨_, _, _, made⟩
  | ofFile content read loaded made => exact ⟨_, _, _, made⟩
  | ofMapping compiled made => exact ⟨_, _, _, made⟩

theorem Made.overHttp {settings : Settings} {r : Resolver (StateM Scene)} {s : Scene}
    (made : Made settings r s) : r.OverHttp := by
  obtain ⟨mapping, store⟩ := settings
  rintro session stored
  cases store with
  | vault v =>
    obtain ⟨token, r_eq⟩ := Vault.exists_eq_of_made made
    rw [r_eq] at stored
    have session_eq : Vault.opened v token = session := Store.vault.inj stored
    have api_eq : (Vault.opened v token).api = (Vault.Server.ofSettings v).api := rfl
    exact ⟨_, session_eq ▸ api_eq⟩
  | environment =>
    rw [Environment.eq_of_made made] at stored
    cases stored
  | jsonFile path =>
    rw [SecretsFile.eq_of_made made] at stored
    cases stored

section

variable {r : Resolver (StateM Scene)}

theorem OverHttp.ignoresLog_fetch (overHttp : r.OverHttp) (location : String) :
    IgnoresLog (r.fetch location) := by
  obtain ⟨mapping, store⟩ := r
  refine IgnoresLog.bind ?_ fun _ => .pure _
  cases store with
  | vault session =>
    obtain ⟨server, api_eq⟩ := overHttp session rfl
    have read := Vault.Server.ignoresLog_exchange (server.readCall location session.token)
    refine IgnoresLog.map (IgnoresLog.map ?_)
    rw [api_eq]
    exact read.map
  | environment => exact (IgnoresLog.environmentValue location).map.map
  | jsonFile file => exact (file.ignoresLog_fetch location).bind fun _ => .pure _

theorem kind_fetch (location : String) (s : Scene) :
    ((r.fetch location).run s).1.2.kind = r.kind := by
  obtain ⟨mapping, store⟩ := r
  cases store <;> rfl

theorem OverHttp.fetch (overHttp : r.OverHttp) (location : String) (s : Scene) :
    ((r.fetch location).run s).1.2.OverHttp := by
  obtain ⟨mapping, store⟩ := r
  intro session stored
  cases store with
  | vault session' => exact overHttp session stored
  | environment => cases stored
  | jsonFile file => cases stored

theorem OverHttp.ask (overHttp : r.OverHttp) (question : Question) (s : Scene) :
    ((r.ask question).run s).1.2.OverHttp := by
  rw [run_ask]
  exact overHttp.fetch _ _

end

inductive Live : Resolver (StateM Scene) → Prop where
  | constructed {source : String} {r : Resolver (StateM Scene)}
      (constructed : Constructed source r) : Live r
  | answered {r : Resolver (StateM Scene)} (live : Live r) (call : Call) (s : Scene) :
      Live ((r.answer call).run s).1.2

theorem Live.overHttp {r : Resolver (StateM Scene)} (live : r.Live) : r.OverHttp := by
  induction live with
  | constructed constructed =>
    obtain ⟨settings, s, made⟩ := constructed.exists_made
    exact made.overHttp
  | answered live call s overHttp => exact overHttp.ask (.secret call) s

end

end Resolver

def resolvingByReference (kind : StoreKind) (location : String) : Log.Entry where
  level := .debug
  message := "Resolving secret by definition"
  fields := [("backend", kind.name), ("location", location)]

inductive Step.Restates (mapping : Template) (kind : StoreKind) : Step → Step → Prop where
  | same (step : Step) : Restates mapping kind step step
  | located {id : String} {reference : Reference} (nonempty : mapping.locate id ≠ "")
      (written : reference.written kind = some (mapping.locate id)) :
      Restates mapping kind (.ask (.secret (.get id))) (.ask (.secret (.getReference reference)))

theorem Step.Restates.asks {mapping : Template} {kind : StoreKind} {question question' : Question}
    (restates : Step.Restates mapping kind (.ask question) (.ask question')) :
    question.location mapping kind = question'.location mapping kind ∧
      ∀ kind found, question.answer kind found = question'.answer kind found := by
  cases restates with
  | same => exact ⟨rfl, fun _ _ => rfl⟩
  | @located id reference nonempty written =>
    have given := Reference.location?_eq_some_iff.2 ⟨written, nonempty⟩
    refine ⟨?_, fun _ _ => rfl⟩
    simp only [Question.location, Call.location, given, Option.getD_some]

namespace Resolver

section

variable [Libraries] {r : Resolver (StateM Scene)} {s s' : Scene}

theorem getReference_of_some {reference : Reference} {location : String}
    (given : reference.location? r.kind = some location) :
    r.getReference reference =
      (do Log.Logger.write (resolvingByReference r.kind location); r.fetch location) := by
  unfold getReference
  rw [given]
  rfl

theorem getReference_of_none {reference : Reference} (given : reference.location? r.kind = none) :
    r.getReference reference = r.get reference.id := by
  unfold getReference
  rw [given]

theorem ask_of_unlogged (overHttp : r.OverHttp) {question question' : Question}
    (location_eq : question.location r.mapping r.kind = question'.location r.mapping r.kind)
    (answer_eq : ∀ kind found, question.answer kind found = question'.answer kind found)
    (same : s.unlogged = s'.unlogged) :
    ((r.ask question).run s).1 = ((r.ask question').run s').1 ∧
      ((r.ask question).run s).2.unlogged = ((r.ask question').run s').2.unlogged := by
  rw [run_ask, run_ask, location_eq]
  have noted : (s.noted (question.entries r.mapping r.kind)).unlogged =
      (s'.noted (question'.entries r.mapping r.kind)).unlogged := same
  obtain ⟨found_eq, after⟩ := (overHttp.ignoresLog_fetch _).eq_of_unlogged noted
  refine ⟨?_, after⟩
  dsimp only
  rw [found_eq, answer_eq]

theorem perform_of_restates {mapping : Template} {kind : StoreKind} {steps steps' : List Step}
    (restates : List.Forall₂ (Step.Restates mapping kind) steps steps') (overHttp : r.OverHttp)
    (mapping_eq : r.mapping = mapping) (kind_eq : r.kind = kind)
    (same : s.unlogged = s'.unlogged) :
    ((r.perform steps).run s).1 = ((r.perform steps').run s').1 ∧
      ((r.perform steps).run s).2.unlogged = ((r.perform steps').run s').2.unlogged := by
  induction restates generalizing r s s' with
  | nil => exact ⟨rfl, same⟩
  | @cons step step' steps steps' first rest ih =>
    match step, step', first with
    | .change act, _, .same _ =>
      exact ih overHttp mapping_eq kind_eq (congrArg (Scene.change act) same)
    | .ask question, .ask question', first =>
      subst mapping_eq kind_eq
      obtain ⟨location_eq, answer_eq⟩ := Step.Restates.asks first
      obtain ⟨asked_eq, after⟩ := ask_of_unlogged overHttp location_eq answer_eq same
      have kept : ((r.ask question).run s).1.2.mapping = r.mapping ∧
          ((r.ask question).run s).1.2.kind = r.kind := by
        rw [run_ask]
        exact ⟨mapping_fetch r _ _, kind_fetch _ _⟩
      rw [perform_ask, perform_ask]
      obtain ⟨rest_eq, last⟩ := ih (overHttp.ask question s) kept.1 kept.2 after
      rw [asked_eq] at rest_eq last
      dsimp only
      rw [asked_eq, rest_eq, last]
      exact ⟨rfl, rfl⟩

theorem reference_by_location {r : Resolver (StateM Scene)} (live : r.Live) :
    (∀ reference location, reference.written r.kind = some location → location ≠ "" → ∀ s,
      let fetched := (r.fetch location).run s
      ∃ entries, fetched.2.log = s.log ++ entries ∧ (r.getReference reference).run s =
        (fetched.1, fetched.2.withLog (s.log ++ resolvingByReference r.kind location :: entries))) ∧
    (∀ reference, (reference.written r.kind = none ∨ reference.written r.kind = some "") →
      r.getReference reference = r.get reference.id) ∧
    (∀ reference reference' : Reference, reference.id = reference'.id →
      (∀ location, location ≠ "" →
        (reference.written r.kind = some location ↔ reference'.written r.kind = some location)) →
      r.getReference reference = r.getReference reference') ∧
    ∀ steps steps', List.Forall₂ (Step.Restates r.mapping r.kind) steps steps' → ∀ s,
      ((r.perform steps).run s).1 = ((r.perform steps').run s).1 ∧
        ((r.perform steps).run s).2.unlogged = ((r.perform steps').run s).2.unlogged := by
  refine ⟨?_, ?_, ?_, ?_⟩
  · intro reference location written nonempty s
    obtain ⟨entries, log_eq, run_eq⟩ :=
      (live.overHttp.ignoresLog_fetch location).exists_entries s
    refine ⟨entries, log_eq, ?_⟩
    rw [getReference_of_some (Reference.location?_eq_some_iff.2 ⟨written, nonempty⟩),
      Scene.run_write_bind]
    have recorded := run_eq (s.log ++ [resolvingByReference r.kind location])
    rw [List.append_assoc, List.singleton_append] at recorded
    exact recorded
  · intro reference absent
    exact getReference_of_none (Reference.location?_eq_none_iff.2 absent)
  · intro reference reference' id_eq written_iff
    have given_eq : reference.location? r.kind = reference'.location? r.kind := by
      ext location
      rw [Reference.location?_eq_some_iff, Reference.location?_eq_some_iff]
      exact and_congr_left fun nonempty => written_iff location nonempty
    unfold getReference
    rw [given_eq, id_eq]
  · intro steps steps' restates s
    exact perform_of_restates restates live.overHttp rfl rfl rfl

end

theorem reference_by_location_kept :
    let r := SecretsFile.holding .byId "/run/secrets" none
    let reference : Reference := { id := "other", vaultPath := some "", jsonKey := some "NAME" }
    let byName := Step.ask (.secret (.get "NAME"))
    let byReference := Step.ask (.secret (.getReference reference))
    let emptied := Step.change fun _ => {}
    r.Live ∧ reference.written r.kind = some "NAME" ∧
      ((r.getReference reference).run fileScene).1 = ((r.fetch "NAME").run fileScene).1 ∧
      r.getReference { reference with jsonKey := some "" } = r.get "other" ∧
      ((r.perform [byName, emptied, byName]).run fileScene).1 =
        ((r.perform [byReference, emptied, byName]).run fileScene).1 := by
  intro r reference byName byReference emptied
  obtain ⟨start, made⟩ := made_fileScene
  have live : r.Live := .constructed (.ofMapping (Template.compile_source .byId) made)
  obtain ⟨fetches, gets, -, restated⟩ := reference_by_location live
  obtain ⟨entries, -, run_eq⟩ := fetches reference "NAME" rfl (by decide) fileScene
  have fetched : ((r.getReference reference).run fileScene).1 =
      ((r.fetch "NAME").run fileScene).1 := by rw [run_eq]
  have nonempty : r.mapping.locate "NAME" ≠ "" := by decide
  have restates : List.Forall₂ (Step.Restates r.mapping r.kind) [byName, emptied, byName]
      [byReference, emptied, byName] :=
    .cons (.located nonempty rfl) (.cons (.same _) (.cons (.same _) .nil))
  exact ⟨live, rfl, fetched, gets { reference with jsonKey := some "" } (.inr rfl),
    (restated _ _ restates fileScene).1⟩

end Resolver

end SecretResolver
