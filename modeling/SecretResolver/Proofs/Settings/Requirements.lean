import SecretResolver.Proofs.Settings.Choices
import SecretResolver.Proofs.Settings.Made
import SecretResolver.Proofs.Text.Blanks

set_option autoImplicit false

namespace SecretResolver

open Choice
open Settings (Problem)

def Topic.store? : Topic → Option StoreKind
  | mapping => none
  | host | credentials | retries | retryDelay | tenant | valueField | timeout => some .vault
  | fileLocation => some .jsonFile

def HasScheme (host : String) : Prop :=
  "http://".toList <+: host.toList ∨ "https://".toList <+: host.toList

def Credentials.Filled : Credentials → Prop
  | token secret => secret.expose ≠ ""
  | appId id userId => id ≠ "" ∧ userId.expose ≠ ""
  | appIdFile id path => id ≠ "" ∧ path ≠ ""
  | appRole roleId secretId => roleId ≠ "" ∧ ∀ secret ∈ secretId, secret.expose ≠ ""

theorem HasScheme.not_blank {host : String} (scheme : HasScheme host) :
    ¬∀ c ∈ host.toList, Text.isBlank c := by
  intro blank
  have mem : 'h' ∈ host.toList := by
    rcases scheme with starts | starts <;> exact starts.subset (by decide)
  exact absurd (blank 'h' mem) (by decide)

theorem VaultSettings.hasScheme_iff {v : VaultSettings} : v.hasScheme ↔ HasScheme v.host := by
  simp [hasScheme, HasScheme]

namespace Credentials

variable {credentials : Credentials}

theorem filled_iff : credentials.Filled ↔ ∀ part ∈ credentials.parts, part.2 ≠ "" := by
  cases credentials with
  | appRole roleId secretId => cases secretId <;> simp [Filled, parts]
  | _ => simp [Filled, parts]

theorem emptyPart?_eq_some_iff {part : String} : credentials.emptyPart? = some part ↔
    ∃ before after, credentials.parts = before ++ (part, "") :: after ∧
      ∀ earlier ∈ before, earlier.2 ≠ "" := by
  simp [emptyPart?, List.find?_eq_some_iff_append]

end Credentials

namespace Choice

def Complete (choices : List Choice) : StoreKind → Prop
  | .vault => ∃ host credentials, last .host choices = some host ∧
      last .credentials choices = some credentials ∧ HasScheme host ∧
        last .valueField choices ≠ some "" ∧ last .timeout choices ≠ some 0 ∧ credentials.Filled
  | .environment => True
  | .jsonFile => ∃ path, last .fileLocation choices = some path ∧ path ≠ ""

structure Acceptable (choices : List Choice) (kind : StoreKind) : Prop where
  one : stores choices = [kind]
  own : ∀ topic other, topic.store? = some other → arguments topic choices ≠ [] → other = kind
  mapping : ∃ source t, last .mapping choices = some source ∧ Template.compile source = .ok t
  complete : Complete choices kind

inductive StoreKept (choices : List Choice) : StoreKind → StoreSettings → Prop where
  | vault {v : VaultSettings} (host_eq : last .host choices = some v.host)
      (credentials_eq : last .credentials choices = some v.credentials)
      (retries_eq : v.retries = (last .retries choices).getD 0)
      (retryDelay_eq : v.retryDelay = (last .retryDelay choices).getD 0)
      (tenant_eq : v.tenant = last .tenant choices)
      (valueField_eq : v.valueField = (last .valueField choices).getD "value")
      (timeout_eq : v.timeout = (last .timeout choices).getD 30) :
      StoreKept choices .vault (.vault v)
  | environment : StoreKept choices .environment .environment
  | jsonFile {path : String} (location_eq : last .fileLocation choices = some path) :
      StoreKept choices .jsonFile (.jsonFile path)

structure Kept (choices : List Choice) (kind : StoreKind) (settings : Settings) : Prop where
  mapping : ∃ source, last .mapping choices = some source ∧
    Template.compile source = .ok settings.mapping
  store : StoreKept choices kind settings.store

inductive Requirement where
  | oneStore
  | noVaultOptions
  | noFileLocation
  | mappingGiven
  | mappingCompiles
  | storeComplete
  | hostHasScheme
  | valueFieldFilled
  | timeoutPositive
  | credentialsFilled

inductive Broken (choices : List Choice) : Requirement → Failure → Prop where
  | storeCount (count : (stores choices).length ≠ 1) :
      Broken choices .oneStore (Problem.storeCount (stores choices).length).failure
  | strayVaultOptions {kind : StoreKind} {topic : Topic} (one : stores choices = [kind])
      (other : kind ≠ .vault) (option : topic.store? = some .vault)
      (given : arguments topic choices ≠ []) :
      Broken choices .noVaultOptions (Problem.strayVaultOptions kind).failure
  | strayFileLocation {kind : StoreKind} (one : stores choices = [kind])
      (other : kind ≠ .jsonFile) (given : arguments .fileLocation choices ≠ []) :
      Broken choices .noFileLocation (Problem.strayFileLocation kind).failure
  | noMapping (missing : last .mapping choices = none) :
      Broken choices .mappingGiven Problem.noMapping.failure
  | badMapping {source : String} {fault : Template.Fault}
      (given : last .mapping choices = some source)
      (refused : Template.compile source = .error fault) :
      Broken choices .mappingCompiles (.mapping source fault.reason)
  | noHost (one : stores choices = [.vault]) (missing : last .host choices = none) :
      Broken choices .storeComplete Problem.noHost.failure
  | noCredentials (one : stores choices = [.vault]) (given : last .host choices ≠ none)
      (missing : last .credentials choices = none) :
      Broken choices .storeComplete Problem.noCredentials.failure
  | noFileLocation (one : stores choices = [.jsonFile])
      (missing : ∀ path, last .fileLocation choices = some path → path = "") :
      Broken choices .storeComplete Problem.noFileLocation.failure
  | blankHost {host : String} (given : last .host choices = some host)
      (blank : ∀ c ∈ host.toList, Text.isBlank c) :
      Broken choices .hostHasScheme Problem.noHost.failure
  | noScheme {host : String} (given : last .host choices = some host)
      (named : ¬∀ c ∈ host.toList, Text.isBlank c) (bare : ¬HasScheme host) :
      Broken choices .hostHasScheme (Problem.noScheme host).failure
  | emptyValueField (given : last .valueField choices = some "") :
      Broken choices .valueFieldFilled Problem.emptyValueField.failure
  | zeroTimeout (given : last .timeout choices = some 0) :
      Broken choices .timeoutPositive Problem.zeroTimeout.failure
  | emptyCredential {credentials : Credentials} {before after : List (String × String)}
      {part : String} (given : last .credentials choices = some credentials)
      (parts_eq : credentials.parts = before ++ (part, "") :: after)
      (filled : ∀ earlier ∈ before, earlier.2 ≠ "") :
      Broken choices .credentialsFilled (Problem.emptyCredential credentials.method part).failure

def ClearBefore (choices : List Choice) (requirement : Requirement) : Prop :=
  ∀ earlier failure, earlier.ctorIdx < requirement.ctorIdx → ¬Broken choices earlier failure

def FirstBroken (choices : List Choice) (failure : Failure) : Prop :=
  ∃ requirement, ClearBefore choices requirement ∧ Broken choices requirement failure

variable {choices : List Choice}

theorem last_isSome_iff {topic : Topic} :
    (last topic choices).isSome ↔ arguments topic choices ≠ [] := by
  rw [last, Option.isSome_iff_ne_none, Ne, List.getLast?_eq_none_iff]

theorem Requirement.eq_of_ctorIdx {requirement requirement' : Requirement}
    (same : requirement.ctorIdx = requirement'.ctorIdx) : requirement = requirement' := by
  cases requirement <;> cases requirement' <;> first | rfl | cases same

theorem ClearBefore.next {requirement later : Requirement} (clear : ClearBefore choices requirement)
    (next : later.ctorIdx = requirement.ctorIdx + 1)
    (met : ∀ failure, ¬Broken choices requirement failure) : ClearBefore choices later := by
  intro earlier failure less broken
  rcases Nat.lt_or_ge earlier.ctorIdx requirement.ctorIdx with before | after
  · exact clear earlier failure before broken
  · have same : earlier.ctorIdx = requirement.ctorIdx := by omega
    exact met failure (Requirement.eq_of_ctorIdx same ▸ broken)

theorem Broken.unique {requirement : Requirement} {failure failure' : Failure}
    (broken : Broken choices requirement failure) (broken' : Broken choices requirement failure') :
    failure = failure' := by
  cases broken with
  | blankHost given blank =>
    cases broken' with
    | blankHost => rfl
    | noScheme given' named bare =>
      cases given.symm.trans given'
      exact absurd blank named
  | noScheme given named bare =>
    cases broken' with
    | blankHost given' blank =>
      cases given.symm.trans given'
      exact absurd blank named
    | noScheme given' named' bare' =>
      cases given.symm.trans given'
      rfl
  | emptyCredential given parts_eq filled =>
    cases broken' with
    | emptyCredential given' parts_eq' filled' =>
      cases given.symm.trans given'
      have first := Credentials.emptyPart?_eq_some_iff.2 ⟨_, _, parts_eq, filled⟩
      rw [Credentials.emptyPart?_eq_some_iff.2 ⟨_, _, parts_eq', filled'⟩] at first
      cases first
      rfl
  | _ => cases broken' <;> simp_all

theorem FirstBroken.unique {failure failure' : Failure} (first : FirstBroken choices failure)
    (first' : FirstBroken choices failure') : failure = failure' := by
  obtain ⟨requirement, clear, broken⟩ := first
  obtain ⟨requirement', clear', broken'⟩ := first'
  rcases Nat.lt_trichotomy requirement.ctorIdx requirement'.ctorIdx with less | same | greater
  · exact absurd broken (clear' _ _ less)
  · obtain rfl := Requirement.eq_of_ctorIdx same
    exact broken.unique broken'
  · exact absurd broken' (clear _ _ greater)

theorem not_broken_of_acceptable {kind : StoreKind} (acceptable : Acceptable choices kind)
    (requirement : Requirement) (failure : Failure) : ¬Broken choices requirement failure := by
  obtain ⟨one, own, ⟨source, t, given, compiled⟩, complete⟩ := acceptable
  have isVault (topic : Topic) {argument : topic.Argument} (option : topic.store? = some .vault)
      (chosen : last topic choices = some argument) : kind = .vault := by
    refine (own topic .vault option (last_isSome_iff.1 ?_)).symm
    rw [chosen]
    rfl
  intro broken
  cases broken with
  | storeCount count => simp [one] at count
  | strayVaultOptions one' other option given' =>
    cases one.symm.trans one'
    exact other (own _ _ option given').symm
  | strayFileLocation one' other given' =>
    cases one.symm.trans one'
    exact other (own _ _ rfl given').symm
  | noMapping missing => simp [given] at missing
  | badMapping given' refused => simp_all
  | noHost one' missing =>
    cases one.symm.trans one'
    simp_all [Complete]
  | noCredentials one' given' missing =>
    cases one.symm.trans one'
    simp_all [Complete]
  | noFileLocation one' missing =>
    cases one.symm.trans one'
    obtain ⟨path, path_eq, nonempty⟩ := complete
    exact nonempty (missing path path_eq)
  | blankHost given' blank =>
    obtain rfl := isVault .host rfl given'
    obtain ⟨host, credentials, host_eq, -, scheme, -⟩ := complete
    cases given'.symm.trans host_eq
    exact scheme.not_blank blank
  | noScheme given' named bare =>
    obtain rfl := isVault .host rfl given'
    obtain ⟨host, credentials, host_eq, -, scheme, -⟩ := complete
    cases given'.symm.trans host_eq
    exact bare scheme
  | emptyValueField given' =>
    obtain rfl := isVault .valueField rfl given'
    obtain ⟨-, -, -, -, -, filled, -⟩ := complete
    exact filled given'
  | zeroTimeout given' =>
    obtain rfl := isVault .timeout rfl given'
    obtain ⟨-, -, -, -, -, -, positive, -⟩ := complete
    exact positive given'
  | emptyCredential given' parts_eq filled =>
    obtain rfl := isVault .credentials rfl given'
    obtain ⟨-, credentials, -, credentials_eq, -, -, -, all⟩ := complete
    cases given'.symm.trans credentials_eq
    exact Credentials.filled_iff.1 all _ (parts_eq ▸ List.mem_append_cons_self) rfl

theorem StoreKept.unique {kind : StoreKind} {store store' : StoreSettings}
    (kept : StoreKept choices kind store) (kept' : StoreKept choices kind store') :
    store = store' := by
  cases kept with
  | @vault v host_eq credentials_eq retries_eq retryDelay_eq tenant_eq valueField_eq timeout_eq =>
    cases v
    cases kept' with
    | @vault v =>
      cases v
      simp_all
  | environment =>
    cases kept'
    rfl
  | jsonFile location_eq =>
    cases kept' with
    | jsonFile location_eq' =>
      cases location_eq.symm.trans location_eq'
      rfl

theorem Kept.unique {kind : StoreKind} {settings settings' : Settings}
    (kept : Kept choices kind settings) (kept' : Kept choices kind settings') :
    settings = settings' := by
  obtain ⟨mapping, store⟩ := settings
  obtain ⟨mapping', store'⟩ := settings'
  obtain ⟨⟨source, given, compiled⟩, store_kept⟩ := kept
  obtain ⟨⟨source', given', compiled'⟩, store_kept'⟩ := kept'
  obtain rfl := store_kept.unique store_kept'
  cases given.symm.trans given'
  cases compiled.symm.trans compiled'
  rfl

end Choice

namespace Draft

variable {choices : List Choice} {kind : StoreKind} {source : String} {t : Template}

theorem settings_of_kind_error {draft : Draft} {problem : Problem}
    (failed : draft.kind = .error problem) : draft.settings = .error problem.failure := by
  simp [settings, failed, Except.mapError, bind, Except.bind]

theorem settings_of_no_mapping {draft : Draft} (one : draft.kind = .ok kind)
    (missing : draft.mapping = none) : draft.settings = .error Problem.noMapping.failure := by
  simp [settings, one, missing, Except.mapError, bind, Except.bind, throw, throwThe,
    MonadExceptOf.throw]

def validStore (draft : Draft) (kind : StoreKind) : Except Problem StoreSettings :=
  match draft.store kind with
  | .error problem => .error problem
  | .ok store =>
    match store.problem? with
    | some problem => .error problem
    | none => .ok store

theorem settings_of_mapping {draft : Draft} (one : draft.kind = .ok kind)
    (given : draft.mapping = some source) : draft.settings =
      match Template.compile source with
      | .error fault => .error (.mapping source fault.reason)
      | .ok mapping =>
        match draft.validStore kind with
        | .error problem => .error problem.failure
        | .ok store => .ok { mapping, store } := by
  simp only [settings, one, given, Except.mapError, bind, Except.bind, Template.compiled,
    validStore]
  cases Template.compile source with
  | error fault => rfl
  | ok mapping =>
    cases draft.store kind with
    | error problem => rfl
    | ok store =>
      cases problem_eq : store.problem? <;>
        simp [Settings.check, problem_eq, pure, Except.pure]

theorem isGiven_iff : (ofChoices choices).vault.isGiven ↔
    ∃ topic, topic.store? = some .vault ∧ arguments topic choices ≠ [] := by
  simp only [ofChoices_eq, VaultOptions.isGiven, Bool.or_eq_true]
  constructor
  · rintro ((((((given | given) | given) | given) | given) | given) | given) <;>
      exact ⟨_, rfl, last_isSome_iff.1 given⟩
  · rintro ⟨topic, option, given⟩
    have chosen := last_isSome_iff.2 given
    cases topic <;> first | (cases option; done) | simp [chosen]

theorem fileLocation_isSome_iff :
    (ofChoices choices).fileLocation.isSome ↔ arguments .fileLocation choices ≠ [] := by
  rw [ofChoices_eq]
  exact last_isSome_iff

theorem given_of_store? {topic : Topic} {store : StoreKind} (option : topic.store? = some store)
    (given : arguments topic choices ≠ []) :
    store = .vault ∧ (ofChoices choices).vault.isGiven ∨
      store = .jsonFile ∧ (ofChoices choices).fileLocation.isSome := by
  cases store with
  | vault => exact .inl ⟨rfl, isGiven_iff.2 ⟨topic, option, given⟩⟩
  | environment => cases topic <;> cases option
  | jsonFile =>
    cases topic <;> first
      | (cases option; done)
      | exact .inr ⟨rfl, fileLocation_isSome_iff.2 given⟩

structure Belongs (choices : List Choice) (kind : StoreKind) : Prop where
  one : stores choices = [kind]
  own : ∀ topic other, topic.store? = some other → arguments topic choices ≠ [] → other = kind
  clear : ClearBefore choices .mappingGiven
  kind_eq : (ofChoices choices).kind = .ok kind

theorem belongs_or_firstBroken (choices : List Choice) : (∃ kind, Belongs choices kind) ∨
    ∃ problem : Problem, FirstBroken choices problem.failure ∧
      (ofChoices choices).kind = .error problem := by
  have clear : ClearBefore choices .oneStore :=
    fun earlier _ less => absurd less (Nat.not_lt_zero _)
  have enabled_eq : (ofChoices choices).enabled = (stores choices).reverse := by rw [ofChoices_eq]
  by_cases count : (stores choices).length = 1
  swap
  · refine .inr ⟨_, ⟨_, clear, .storeCount count⟩, ?_⟩
    unfold kind
    split
    · next kind single =>
      rw [enabled_eq] at single
      exact absurd (by simpa using congrArg List.length single) count
    · rw [enabled_eq, List.length_reverse]
  obtain ⟨kind, one⟩ := List.length_eq_one_iff.1 count
  have single : (ofChoices choices).enabled = [kind] := by rw [enabled_eq, one]; rfl
  have clear : ClearBefore choices .noVaultOptions := clear.next rfl fun _ broken => by
    cases broken with
    | storeCount several => exact several count
  by_cases stray : kind ≠ .vault ∧ (ofChoices choices).vault.isGiven
  · obtain ⟨topic, option, given⟩ := isGiven_iff.1 stray.2
    refine .inr ⟨_, ⟨_, clear, .strayVaultOptions one stray.1 option given⟩, ?_⟩
    simp [Draft.kind, single, stray]
  have clear : ClearBefore choices .noFileLocation := clear.next rfl fun _ broken => by
    cases broken with
    | strayVaultOptions one' other option given =>
      cases one.symm.trans one'
      exact stray ⟨other, isGiven_iff.2 ⟨_, option, given⟩⟩
  by_cases misplaced : kind ≠ .jsonFile ∧ (ofChoices choices).fileLocation.isSome
  · refine .inr ⟨_, ⟨_, clear, .strayFileLocation one misplaced.1
      (fileLocation_isSome_iff.1 misplaced.2)⟩, ?_⟩
    simp only [Draft.kind, single, if_neg stray, if_pos misplaced]
  have clear : ClearBefore choices .mappingGiven := clear.next rfl fun _ broken => by
    cases broken with
    | strayFileLocation one' other given =>
      cases one.symm.trans one'
      exact misplaced ⟨other, fileLocation_isSome_iff.2 given⟩
  have kind_eq : (ofChoices choices).kind = .ok kind := by
    simp only [Draft.kind, single, if_neg stray, if_neg misplaced]
  refine .inl ⟨kind, one, ?_, clear, kind_eq⟩
  intro topic other option given
  by_contra apart
  rcases given_of_store? option given with ⟨rfl, given⟩ | ⟨rfl, given⟩
  · exact stray ⟨Ne.symm apart, given⟩
  · exact misplaced ⟨Ne.symm apart, given⟩

theorem problem?_cases {v : VaultSettings} (kept : StoreKept choices .vault (.vault v))
    (clear : ClearBefore choices .hostHasScheme) :
    (v.problem? = none ∧ Complete choices .vault) ∨
      ∃ problem : Problem, FirstBroken choices problem.failure ∧ v.problem? = some problem := by
  obtain ⟨host_eq, credentials_eq, -, -, -, valueField_eq, timeout_eq⟩ := kept
  have filled_iff : v.valueField = "" ↔ last .valueField choices = some "" := by
    rw [valueField_eq]
    cases last .valueField choices <;> simp
  have positive_iff : v.timeout = 0 ↔ last .timeout choices = some 0 := by
    rw [timeout_eq]
    cases last .timeout choices <;> simp
  unfold VaultSettings.problem?
  by_cases blank : Text.trim v.host.toList = []
  · rw [if_pos blank]
    exact .inr ⟨_, ⟨_, clear, .blankHost host_eq (Text.trim_eq_nil_iff.1 blank)⟩, rfl⟩
  rw [if_neg blank]
  have named := Text.trim_eq_nil_iff.not.1 blank
  by_cases scheme : v.hasScheme
  swap
  · have bare := VaultSettings.hasScheme_iff.not.1 scheme
    rw [if_pos (by simpa using scheme)]
    exact .inr ⟨_, ⟨_, clear, .noScheme host_eq named bare⟩, rfl⟩
  rw [if_neg (by simpa using scheme)]
  have clear : ClearBefore choices .valueFieldFilled := clear.next rfl fun _ broken => by
    cases broken with
    | blankHost host_eq' blank' =>
      cases host_eq.symm.trans host_eq'
      exact named blank'
    | noScheme host_eq' _ bare =>
      cases host_eq.symm.trans host_eq'
      exact bare (VaultSettings.hasScheme_iff.1 scheme)
  by_cases empty : v.valueField = ""
  · rw [if_pos empty]
    exact .inr ⟨_, ⟨_, clear, .emptyValueField (filled_iff.1 empty)⟩, rfl⟩
  rw [if_neg empty]
  have clear : ClearBefore choices .timeoutPositive := clear.next rfl fun _ broken => by
    cases broken with
    | emptyValueField given => exact empty (filled_iff.2 given)
  by_cases zero : v.timeout = 0
  · rw [if_pos zero]
    exact .inr ⟨_, ⟨_, clear, .zeroTimeout (positive_iff.1 zero)⟩, rfl⟩
  rw [if_neg zero]
  have clear : ClearBefore choices .credentialsFilled := clear.next rfl fun _ broken => by
    cases broken with
    | zeroTimeout given => exact zero (positive_iff.2 given)
  cases found : v.credentials.emptyPart? with
  | some part =>
    obtain ⟨before, after, parts_eq, filled⟩ := Credentials.emptyPart?_eq_some_iff.1 found
    exact .inr ⟨_, ⟨_, clear, .emptyCredential credentials_eq parts_eq filled⟩, rfl⟩
  | none =>
    refine .inl ⟨rfl, _, _, host_eq, credentials_eq, VaultSettings.hasScheme_iff.1 scheme,
      filled_iff.not.1 empty, positive_iff.not.1 zero, ?_⟩
    exact Credentials.filled_iff.2 (Credentials.emptyPart?_eq_none_iff.1 found)

theorem exists_store_vault {host : String} {credentials : Credentials}
    (host_eq : last .host choices = some host)
    (credentials_eq : last .credentials choices = some credentials) :
    ∃ v, (ofChoices choices).store .vault = .ok (.vault v) ∧
      StoreKept choices .vault (.vault v) := by
  let v : VaultSettings :=
    { host, credentials
      retries := (last .retries choices).getD 0
      retryDelay := (last .retryDelay choices).getD 0
      tenant := last .tenant choices
      valueField := (last .valueField choices).getD "value"
      timeout := (last .timeout choices).getD 30 }
  refine ⟨v, ?_, .vault host_eq credentials_eq rfl rfl rfl rfl rfl⟩
  simp only [ofChoices_eq, store, VaultOptions.settings, host_eq, credentials_eq]
  rfl

theorem validStore_vault_cases (belongs : Belongs choices .vault)
    (clear : ClearBefore choices .storeComplete) :
    (∃ store, Complete choices .vault ∧ StoreKept choices .vault store ∧
        (ofChoices choices).validStore .vault = .ok store) ∨
      ∃ problem : Problem, FirstBroken choices problem.failure ∧
        (ofChoices choices).validStore .vault = .error problem := by
  cases host_eq : last .host choices with
  | none =>
    refine .inr ⟨_, ⟨_, clear, .noHost belongs.one host_eq⟩, ?_⟩
    simp [validStore, ofChoices_eq, store, VaultOptions.settings, host_eq, Except.map]
  | some host =>
    have given : last .host choices ≠ none := by simp [host_eq]
    cases credentials_eq : last .credentials choices with
    | none =>
      refine .inr ⟨_, ⟨_, clear, .noCredentials belongs.one given credentials_eq⟩, ?_⟩
      simp [validStore, ofChoices_eq, store, VaultOptions.settings, host_eq, credentials_eq,
        Except.map]
    | some credentials =>
      have clear : ClearBefore choices .hostHasScheme := clear.next rfl fun _ broken => by
        cases broken with
        | noHost _ missing => exact given missing
        | noCredentials _ _ missing => simp [credentials_eq] at missing
        | noFileLocation one => cases belongs.one.symm.trans one
      obtain ⟨v, store_eq, kept⟩ := exists_store_vault host_eq credentials_eq
      simp only [validStore, store_eq, StoreSettings.problem?]
      rcases problem?_cases kept clear with ⟨valid, complete⟩ | ⟨problem, first, found⟩
      · rw [valid]
        exact .inl ⟨_, complete, kept, rfl⟩
      · rw [found]
        exact .inr ⟨problem, first, rfl⟩

theorem validStore_cases (belongs : Belongs choices kind)
    (clear : ClearBefore choices .storeComplete) :
    (∃ store, Complete choices kind ∧ StoreKept choices kind store ∧
        (ofChoices choices).validStore kind = .ok store) ∨
      ∃ problem : Problem, FirstBroken choices problem.failure ∧
        (ofChoices choices).validStore kind = .error problem := by
  cases kind with
  | vault => exact validStore_vault_cases belongs clear
  | environment => exact .inl ⟨_, trivial, .environment, rfl⟩
  | jsonFile =>
    cases given : last .fileLocation choices with
    | none =>
      refine .inr ⟨_, ⟨_, clear, .noFileLocation belongs.one ?_⟩, ?_⟩
      · simp [given]
      · simp [validStore, ofChoices_eq, store, given]
    | some path =>
      by_cases empty : path = ""
      · refine .inr ⟨.noFileLocation, ⟨_, clear, .noFileLocation belongs.one ?_⟩, ?_⟩
        · simp [given, empty]
        · simp [validStore, ofChoices_eq, store, given, StoreSettings.problem?, empty]
      · refine .inl ⟨_, ⟨path, given, empty⟩, .jsonFile given, ?_⟩
        simp [validStore, ofChoices_eq, store, given, StoreSettings.problem?, empty]

theorem settings_cases (choices : List Choice) :
    (∃ kind settings, Acceptable choices kind ∧ Kept choices kind settings ∧
        (ofChoices choices).settings = .ok settings) ∨
      ∃ failure, FirstBroken choices failure ∧ (ofChoices choices).settings = .error failure := by
  rcases belongs_or_firstBroken choices with ⟨kind, belongs⟩ | ⟨problem, first, failed⟩
  swap
  · exact .inr ⟨_, first, settings_of_kind_error failed⟩
  have mapping_eq : (ofChoices choices).mapping = last .mapping choices := by rw [ofChoices_eq]
  cases given : last .mapping choices with
  | none =>
    refine .inr ⟨_, ⟨_, belongs.clear, .noMapping given⟩, ?_⟩
    exact settings_of_no_mapping belongs.kind_eq (mapping_eq.trans given)
  | some source =>
    rw [settings_of_mapping belongs.kind_eq (mapping_eq.trans given)]
    have clear : ClearBefore choices .mappingCompiles := belongs.clear.next rfl fun _ broken => by
      cases broken with
      | noMapping missing => simp [given] at missing
    cases compiled : Template.compile source with
    | error fault => exact .inr ⟨_, ⟨_, clear, .badMapping given compiled⟩, rfl⟩
    | ok mapping =>
      have clear : ClearBefore choices .storeComplete := clear.next rfl fun _ broken => by
        cases broken with
        | badMapping given' refused =>
          cases given.symm.trans given'
          simp [compiled] at refused
      rcases validStore_cases belongs clear with
        ⟨store, complete, kept, valid⟩ | ⟨problem, first, found⟩
      · rw [valid]
        have acceptable : Acceptable choices kind :=
          ⟨belongs.one, belongs.own, ⟨source, mapping, given, compiled⟩, complete⟩
        exact .inl ⟨kind, _, acceptable, ⟨⟨source, given, compiled⟩, kept⟩, rfl⟩
      · rw [found]
        exact .inr ⟨_, first, rfl⟩

theorem settings_of_kept {settings : Settings} (acceptable : Acceptable choices kind)
    (kept : Kept choices kind settings) : (ofChoices choices).settings = .ok settings := by
  rcases settings_cases choices with
    ⟨kind', settings', acceptable', kept', made⟩ | ⟨failure, ⟨requirement, -, broken⟩, -⟩
  · cases acceptable.one.symm.trans acceptable'.one
    rw [made, kept.unique kept']
  · exact absurd broken (not_broken_of_acceptable acceptable requirement failure)

theorem settings_of_firstBroken {failure : Failure} (first : FirstBroken choices failure) :
    (ofChoices choices).settings = .error failure := by
  rcases settings_cases choices with ⟨kind, -, acceptable, -, -⟩ | ⟨failure', first', failed⟩
  · obtain ⟨requirement, -, broken⟩ := first
    exact absurd broken (not_broken_of_acceptable acceptable requirement failure)
  · rw [failed, first.unique first']

theorem settings_eq_ok_iff {settings : Settings} : (ofChoices choices).settings = .ok settings ↔
    ∃ kind, Acceptable choices kind ∧ Kept choices kind settings := by
  constructor
  · intro made
    rcases settings_cases choices with ⟨kind, _, acceptable, kept, made'⟩ | ⟨_, -, failed⟩
    · cases made.symm.trans made'
      exact ⟨kind, acceptable, kept⟩
    · cases made.symm.trans failed
  · rintro ⟨kind, acceptable, kept⟩
    exact settings_of_kept acceptable kept

theorem settings_eq_error_iff {failure : Failure} :
    (ofChoices choices).settings = .error failure ↔ FirstBroken choices failure := by
  refine ⟨fun failed => ?_, settings_of_firstBroken⟩
  rcases settings_cases choices with ⟨_, _, -, -, made⟩ | ⟨_, first, failed'⟩
  · cases made.symm.trans failed
  · cases failed.symm.trans failed'
    exact first

theorem settings_ok_or_first_fault (choices : List Choice) :
    let result := (ofChoices choices).settings
    ((∃ settings, result = .ok settings) ↔ ∃ kind, Acceptable choices kind) ∧
      (∀ settings, result = .ok settings ↔
        ∃ kind, Acceptable choices kind ∧ Kept choices kind settings) ∧
      ∀ failure, result = .error failure ↔ FirstBroken choices failure := by
  refine ⟨⟨?_, ?_⟩, fun _ => settings_eq_ok_iff, fun _ => settings_eq_error_iff⟩
  · rintro ⟨settings, made⟩
    obtain ⟨kind, acceptable, -⟩ := settings_eq_ok_iff.1 made
    exact ⟨kind, acceptable⟩
  · rintro ⟨kind, acceptable⟩
    rcases settings_cases choices with
      ⟨_, settings, -, -, made⟩ | ⟨failure, ⟨requirement, -, broken⟩, -⟩
    · exact ⟨settings, made⟩
    · exact absurd broken (not_broken_of_acceptable acceptable requirement failure)

end Draft

end SecretResolver
