import SecretResolver.Host
import SecretResolver.Libraries
import SecretResolver.Record
import SecretResolver.Settings
import SecretResolver.Toml.Document

set_option autoImplicit false

namespace SecretResolver

open Toml (Value)

structure SettingsDocument where
  mapping : String
  store : StoreSettings
  deriving DecidableEq

namespace SettingsDocument

def record? : Value → Option (Record Value)
  | .array items => some (.listed items)
  | .table _ entries => some (.named entries)
  | .tables before last => some (.listed ((before ++ [last]).map (.table .header)))
  | _ => none

-- the entry that says which of several records it is, or the first item, and the rest
def tagged? (tag : String) (value : Value) : Option (String × Record Value) := do
  match ← record? value with
  | .named entries =>
    match entries.find? (·.1 == tag) with
    | some (_, .text name) => some (name, .named (entries.filter (·.1 != tag)))
    | _ => none
  | .listed (.text name :: items) => some (name, .listed items)
  | .listed _ => none

def text? : Value → Option String
  | .text s => some s
  | _ => none

def count? (bits : Nat) : Value → Option Nat
  | .integer (.ofNat n) => if n < 1 <<< bits then some n else none
  | _ => none

-- a field that may be left out
def given? {α : Type} (read : Value → Option α) : Option Value → Option (Option α)
  | none => some none
  | some value => (read value).map some

def credentials? (value : Value) : Option Credentials := do
  let (method, record) ← tagged? "method" value
  match method with
  | "token" =>
    let [token] ← record.arrange [{ name := "token" }] | none
    some (.token ⟨← text? (← token)⟩)
  | "app_id" =>
    let [appId, userId] ← record.arrange [{ name := "app_id" }, { name := "user_id" }] | none
    some (.appId (← text? (← appId)) ⟨← text? (← userId)⟩)
  | "app_id_file" =>
    let [appId, path] ← record.arrange [{ name := "app_id" }, { name := "user_id_path" }] | none
    some (.appIdFile (← text? (← appId)) (← text? (← path)))
  | "app_role" =>
    let [roleId, secretId] ← record.arrange
      [{ name := "role_id" }, { name := "secret_id", trailing := true }] | none
    some (.appRole (← text? (← roleId)) ((← given? text? secretId).map (⟨·⟩)))
  | _ => none

def vaultFields : List Record.Field :=
  [{ name := "host" }, { name := "auth" }, { name := "auth_retries", trailing := true },
    { name := "auth_retry_delay_secs", trailing := true },
    { name := "namespace", trailing := true }, { name := "value_field", trailing := true },
    { name := "timeout_secs", trailing := true }]

def vault? (record : Record Value) : Option VaultSettings := do
  let [host, auth, retries, retryDelay, tenant, valueField, timeout] ←
    record.arrange vaultFields | none
  let usual : VaultSettings :=
    { host := ← text? (← host), credentials := ← credentials? (← auth) }
  let retries := (← given? (count? 32) retries).map UInt32.ofNat
  let retryDelay := (← given? (count? 64) retryDelay).map UInt64.ofNat
  some
    { usual with
      retries := retries.getD usual.retries
      retryDelay := retryDelay.getD usual.retryDelay
      tenant := ← given? text? tenant
      valueField := (← given? text? valueField).getD usual.valueField
      timeout := ((← given? (count? 64) timeout).map UInt64.ofNat).getD usual.timeout }

mutual

-- whether every integer in it fits one word
def hasWords : Value → Bool
  | .integer n => Toml.Number.fits 64 n
  | .array items => itemsHaveWords items
  | .table _ entries => entriesHaveWords entries
  | .tables before last => tablesHaveWords before && entriesHaveWords last
  | _ => true

def itemsHaveWords : List Value → Bool
  | [] => true
  | item :: items => hasWords item && itemsHaveWords items

def entriesHaveWords : List (String × Value) → Bool
  | [] => true
  | (_, value) :: entries => hasWords value && entriesHaveWords entries

def tablesHaveWords : List (List (String × Value)) → Bool
  | [] => true
  | entries :: tables => entriesHaveWords entries && tablesHaveWords tables

end

def store? (value : Value) : Option StoreSettings := do
  guard (hasWords value)
  let (kind, record) ← tagged? "type" value
  match kind with
  | "vault" => some (.vault (← vault? record))
  | "env_var" =>
    let [] ← record.arrange [] | none
    some .environment
  | "json_file" =>
    let [path] ← record.arrange [{ name := "path" }] | none
    some (.jsonFile (← text? (← path)))
  | _ => none

def ofEntries? (entries : Toml.Entries) : Option SettingsDocument := do
  let [mapping, store] ← (Record.named entries).arrange
    [{ name := "mapping" }, { name := "backend" }] | none
  some { mapping := ← text? (← mapping), store := ← store? (← store) }

variable [Libraries]

def read (text : String) : Except Settings.Problem SettingsDocument :=
  match (Toml.Document.read text).bind ofEntries? with
  | none => .error (.unreadable (Libraries.tomlComplaint text))
  | some document => .ok document

end SettingsDocument

namespace Settings

def ofDocument (d : SettingsDocument) : Except Failure Settings :=
  make d.mapping d.store

variable [Libraries]

def ofText (text : String) : Except Failure Settings := do
  ofDocument (← (SettingsDocument.read text).mapError (·.failure))

variable {m : Type → Type} [Monad m] [Host m]

def load (path : String) : m (Except Failure Settings) := do
  match (← Host.fileText path).bind ofText with
  | .error failure => return .error failure
  | .ok settings =>
    Log.debug "Loaded client config" [("path", path), ("backend", settings.store.kind.name)]
    return .ok settings

end Settings

end SecretResolver
