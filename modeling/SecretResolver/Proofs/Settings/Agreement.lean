import Mathlib.Data.List.Nodup
import Mathlib.Data.Option.Basic
import SecretResolver.Proofs.Resolver.Construction

set_option autoImplicit false

namespace SecretResolver

open Toml (Value)

inductive StoreGiven where
  | vault (host : String) (credentials : Credentials) (retries : Option UInt32)
      (retryDelay : Option UInt64) (tenant valueField : Option String) (timeout : Option UInt64)
  | environment
  | jsonFile (path : String)

namespace StoreGiven

def kind : StoreGiven → StoreKind
  | vault _ _ _ _ _ _ _ => .vault
  | environment => .environment
  | jsonFile _ => .jsonFile

def store : StoreGiven → StoreSettings
  | vault host credentials retries retryDelay tenant valueField timeout => .vault
    { host, credentials, tenant
      retries := retries.getD 0
      retryDelay := retryDelay.getD 0
      valueField := valueField.getD "value"
      timeout := timeout.getD 30 }
  | environment => .environment
  | jsonFile path => .jsonFile path

def outcome (mapping : String) (given : StoreGiven) : Except Failure Settings :=
  match Template.compile mapping with
  | .error fault => .error (.mapping mapping fault.reason)
  | .ok template =>
    match given.store.problem? with
    | some problem => .error (.config problem.message)
    | none => .ok { mapping := template, store := given.store }

def options : StoreGiven → List Choice
  | vault host credentials retries retryDelay tenant valueField timeout =>
    .host host :: .credentials credentials ::
      ((retries.map .retries).toList ++ (retryDelay.map .retryDelay).toList ++
        (tenant.map .tenant).toList ++ (valueField.map .valueField).toList ++
        (timeout.map .timeout).toList)
  | environment => []
  | jsonFile path => [.fileLocation path]

def choices (mapping : String) (given : StoreGiven) : List Choice :=
  .mapping mapping :: .enable given.kind :: given.options

def changed : StoreGiven → StoreSettings
  | vault host credentials retries retryDelay tenant valueField timeout =>
    let usual : VaultSettings := { host, credentials }
    .vault
      { usual with
        tenant
        retries := retries.getD usual.retries
        retryDelay := retryDelay.getD usual.retryDelay
        valueField := valueField.getD usual.valueField
        timeout := timeout.getD usual.timeout }
  | environment => .environment
  | jsonFile path => .jsonFile path

theorem changed_eq_store (given : StoreGiven) : given.changed = given.store := by
  cases given <;> rfl

inductive Spelled : StoreGiven → Value → Prop where
  | vault {host : String} {credentials : Credentials} {retries : Option UInt32}
      {retryDelay : Option UInt64} {tenant valueField : Option String} {timeout : Option UInt64}
      {value auth : Value} {record : Record Value}
      (words : SettingsDocument.hasWords value)
      (tagged : SettingsDocument.tagged? "type" value = some ("vault", record))
      (fields : record.arrange SettingsDocument.vaultFields =
        some [some (.text host), some auth, retries.map (.integer ·.toNat),
          retryDelay.map (.integer ·.toNat), tenant.map .text, valueField.map .text,
          timeout.map (.integer ·.toNat)])
      (shown : SettingsDocument.credentials? auth = some credentials) :
      Spelled (.vault host credentials retries retryDelay tenant valueField timeout) value
  | environment {value : Value} {record : Record Value}
      (words : SettingsDocument.hasWords value)
      (tagged : SettingsDocument.tagged? "type" value = some ("env_var", record))
      (fields : record.arrange [] = some []) : Spelled .environment value
  | jsonFile {path : String} {value : Value} {record : Record Value}
      (words : SettingsDocument.hasWords value)
      (tagged : SettingsDocument.tagged? "type" value = some ("json_file", record))
      (fields : record.arrange [{ name := "path" }] = some [some (.text path)]) :
      Spelled (.jsonFile path) value

def Document (mapping : String) (given : StoreGiven) (entries : Toml.Entries) : Prop :=
  ∃ value, (Record.named entries).arrange [{ name := "mapping" }, { name := "backend" }] =
    some [some (.text mapping), some value] ∧ given.Spelled value

end StoreGiven

theorem Settings.make_eq_outcome (mapping : String) (given : StoreGiven) :
    make mapping given.store = given.outcome mapping := by
  unfold make check StoreGiven.outcome Template.compiled
  cases Template.compile mapping with
  | error fault => rfl
  | ok template =>
    cases problem : given.store.problem? <;> simp [Except.mapError, bind, Except.bind, pure,
      Except.pure, problem, Problem.failure]

namespace Draft

theorem choose_comm {x y : Choice} (apart : x.ctorIdx ≠ y.ctorIdx) (d : Draft) :
    (d.choose x).choose y = (d.choose y).choose x := by
  cases x <;> cases y <;> first | rfl | exact absurd rfl apart

theorem ofChoices_perm {order choices : List Choice} (perm : order.Perm choices)
    (apart : (choices.map Choice.ctorIdx).Nodup) : ofChoices order = ofChoices choices := by
  apply perm.foldl_eq'
  intro x memX y memY d
  by_cases same : x.ctorIdx = y.ctorIdx
  · rw [List.inj_on_of_nodup_map apart (perm.mem_iff.1 memX) (perm.mem_iff.1 memY) same]
  · exact choose_comm same d

theorem sublist_option {α : Type} (choice : α → Choice) {place : Nat}
    (placed : ∀ value, (choice value).ctorIdx = place) (value : Option α) :
    ((value.map choice).toList.map Choice.ctorIdx).Sublist [place] := by
  cases value with
  | none => exact List.nil_sublist _
  | some value => simp [placed]

-- the choices stand in the order of their constructors, with some left out
theorem nodup_choices (mapping : String) (given : StoreGiven) :
    ((given.choices mapping).map Choice.ctorIdx).Nodup := by
  cases given with
  | vault host credentials retries retryDelay tenant valueField timeout =>
    simp only [StoreGiven.choices, StoreGiven.options, List.map_cons, List.map_append]
    have options := ((((sublist_option .retries (fun _ => rfl) retries).append
      (sublist_option .retryDelay (fun _ => rfl) retryDelay)).append
      (sublist_option .tenant (fun _ => rfl) tenant)).append
      (sublist_option .valueField (fun _ => rfl) valueField)).append
      (sublist_option .timeout (fun _ => rfl) timeout)
    have all : [0, 1, 2, 3, 4, 5, 6, 7, 8].Nodup := by decide
    exact all.sublist ((((options.cons_cons 3).cons_cons 2).cons_cons 1).cons_cons 0)
  | environment => exact of_decide_eq_true rfl
  | jsonFile path => exact of_decide_eq_true rfl

def ofGiven (mapping : String) : StoreGiven → Draft
  | .vault host credentials retries retryDelay tenant valueField timeout =>
    { mapping := some mapping
      enabled := [.vault]
      vault :=
        { host := some host, credentials := some credentials
          retries, retryDelay, tenant, valueField, timeout } }
  | .environment => { mapping := some mapping, enabled := [.environment] }
  | .jsonFile path =>
    { mapping := some mapping, enabled := [.jsonFile], fileLocation := some path }

theorem ofChoices_choices (mapping : String) (given : StoreGiven) :
    ofChoices (given.choices mapping) = ofGiven mapping given := by
  cases given with
  | vault host credentials retries retryDelay tenant valueField timeout =>
    cases retries <;> cases retryDelay <;> cases tenant <;> cases valueField <;> cases timeout <;>
      rfl
  | environment => rfl
  | jsonFile path => rfl

theorem settings_ofGiven (mapping : String) (given : StoreGiven) :
    (ofGiven mapping given).settings = Settings.make mapping given.store := by
  cases given <;> rfl

end Draft

namespace SettingsDocument

theorem given?_map {α β : Type} {read : Value → Option β} {write : α → Value} {f : α → β}
    (reads : ∀ a, read (write a) = some (f a)) (written : Option α) :
    given? read (written.map write) = some (written.map f) := by
  cases written with
  | none => rfl
  | some a => exact congrArg (Option.map some) (reads a)

theorem given?_text (written : Option String) :
    given? text? (written.map .text) = some written := by
  cases written <;> rfl

theorem given?_count_32 (written : Option UInt32) :
    given? (count? 32) (written.map (.integer ·.toNat)) = some (written.map (·.toNat)) :=
  given?_map (fun n => if_pos n.toNat_lt) written

theorem given?_count_64 (written : Option UInt64) :
    given? (count? 64) (written.map (.integer ·.toNat)) = some (written.map (·.toNat)) :=
  given?_map (fun n => if_pos n.toNat_lt) written

-- Here the defaults of a document are those of `StoreGiven.store`.
theorem store?_of_spelled {given : StoreGiven} {value : Value} (spelled : given.Spelled value) :
    store? value = some given.store := by
  unfold store?
  cases spelled with
  | vault words tagged fields shown =>
    have whole_32 : UInt32.ofNat ∘ UInt32.toNat = id := funext fun _ => UInt32.ofNat_toNat
    have whole_64 : UInt64.ofNat ∘ UInt64.toNat = id := funext fun _ => UInt64.ofNat_toNat
    simp [words, tagged, vault?, fields, shown, text?, given?_text, given?_count_32,
      given?_count_64, whole_32, whole_64, StoreGiven.store]
  | environment words tagged fields =>
    simp [words, tagged, fields, StoreGiven.store]
  | jsonFile words tagged fields =>
    simp [words, tagged, fields, text?, StoreGiven.store]

theorem read_of_spelled [Libraries] {mapping text : String} {given : StoreGiven}
    {entries : Toml.Entries} (written : given.Document mapping entries)
    (document : Toml.Document.read text = some entries) :
    read text = .ok { mapping, store := given.store } := by
  obtain ⟨value, fields, spelled⟩ := written
  have decoded : ofEntries? entries = some { mapping, store := given.store } := by
    simp [ofEntries?, fields, text?, store?_of_spelled spelled]
  rw [read, document, Option.bind_some, decoded]

end SettingsDocument

theorem Resolver.not_config_of_check [Libraries] {settings : Settings}
    (valid : settings.check = .ok ()) (s : Scene) (problem : String) :
    ((ofSettings settings : StateM Scene _).run s).1 ≠ .error (.config problem) := by
  obtain ⟨attempts, outcome, run_eq⟩ := exists_failsOnlyAs_ofSettings (m := StateM Scene) valid
  intro refused
  rw [run_eq] at refused
  change (outcome.run s).1.mapError _ = _ at refused
  obtain ⟨cause, same⟩ := exists_of_mapError refused
  cases same

namespace Settings

theorem ways_agree [Libraries] (mapping : String) (given : StoreGiven) :
    (∀ order : List Choice, order.Perm (given.choices mapping) →
        (Draft.ofChoices order).settings = given.outcome mapping) ∧
      (∀ text entries, Toml.Document.read text = some entries → given.Document mapping entries →
        ofText text = given.outcome mapping) ∧
      make mapping given.changed = given.outcome mapping ∧
      ∀ settings, ((∃ choices, (Draft.ofChoices choices).settings = .ok settings) ∨
          ∃ text, ofText text = .ok settings) →
        settings.check = .ok () ∧ ∀ (s : Scene) (problem : String),
          ((Resolver.ofSettings settings : StateM Scene _).run s).1 ≠
            .error (.config problem) := by
  have made := make_eq_outcome mapping given
  refine ⟨?_, ?_, ?_, ?_⟩
  · intro order perm
    rw [Draft.ofChoices_perm perm (Draft.nodup_choices mapping given),
      Draft.ofChoices_choices, Draft.settings_ofGiven, made]
  · intro text entries document written
    rw [ofText, SettingsDocument.read_of_spelled written document]
    exact made
  · rw [given.changed_eq_store, made]
  · intro settings obtained
    have valid : settings.check = .ok () := by
      rcases obtained with ⟨choices, chosen⟩ | ⟨text, written⟩
      · obtain ⟨_, _, accepted⟩ := Draft.exists_accepted chosen
        exact accepted.valid
      · obtain ⟨document, -, checked⟩ := exists_of_bind_ok written
        exact check_of_make checked
    exact ⟨valid, Resolver.not_config_of_check valid⟩

def twoRetries : StoreGiven :=
  .vault "https://vault.test" (.token ⟨"token"⟩) (some 2) none none none none

def twoRetriesText : String :=
  "mapping = '\x7b\x7b .ID \x7d\x7d'\n[backend]\ntype = 'vault'\nhost = 'https://vault.test'\n" ++
    "auth_retries = 2\n[backend.auth]\nmethod = 'token'\ntoken = 'token'\n"

def twoRetriesEntries : Toml.Entries :=
  [("mapping", .text Template.byId.source),
    ("backend", .table .header
      [("type", .text "vault"), ("host", .text "https://vault.test"), ("auth_retries", .integer 2),
        ("auth", .table .header [("method", .text "token"), ("token", .text "token")])])]

set_option maxRecDepth 20000 in
theorem read_twoRetriesText : Toml.Document.read twoRetriesText = some twoRetriesEntries := by
  with_unfolding_all rfl

theorem ways_agree_two_retries : ∃ settings : Settings,
    settings.store = .vault
      { host := "https://vault.test", credentials := .token ⟨"token"⟩, retries := 2
        retryDelay := 0, tenant := none, valueField := "value", timeout := 30 } ∧
      (Draft.ofChoices [.retries 2, .credentials (.token ⟨"token"⟩), .enable .vault,
        .host "https://vault.test", .mapping Template.byId.source]).settings = .ok settings ∧
      ofText twoRetriesText = .ok settings ∧
      make Template.byId.source twoRetries.changed = .ok settings := by
  obtain ⟨chosen, written, made, -⟩ := ways_agree Template.byId.source twoRetries
  have outcome_eq : twoRetries.outcome Template.byId.source =
      .ok { mapping := .byId, store := twoRetries.store } := by
    rw [StoreGiven.outcome, Template.compile_source]
    rfl
  have document : twoRetries.Document Template.byId.source twoRetriesEntries :=
    ⟨_, rfl, .vault rfl rfl rfl rfl⟩
  rw [outcome_eq] at chosen written made
  exact ⟨_, rfl, chosen _ (by decide), written _ _ read_twoRetriesText document, made⟩

end Settings

end SecretResolver
