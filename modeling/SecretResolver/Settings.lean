import SecretResolver.Credentials
import SecretResolver.Retry
import SecretResolver.StoreKind
import SecretResolver.Template

set_option autoImplicit false

namespace SecretResolver

structure VaultSettings where
  host : String
  credentials : Credentials
  retries : UInt32 := 0
  retryDelay : UInt64 := 0
  tenant : Option String := none
  valueField : String := "value"
  timeout : UInt64 := 30
  deriving DecidableEq

def VaultSettings.retry (v : VaultSettings) : Retry where
  retries := v.retries
  delay := .ofSeconds v.retryDelay

inductive StoreSettings where
  | vault (settings : VaultSettings)
  | environment
  | jsonFile (path : String)
  deriving DecidableEq

def StoreSettings.kind : StoreSettings → StoreKind
  | vault _ => .vault
  | environment => .environment
  | jsonFile _ => .jsonFile

structure Settings where
  mapping : Template
  store : StoreSettings
  deriving DecidableEq

namespace Settings

inductive Problem where
  | storeCount (enabled : Nat)
  | strayVaultOptions (kind : StoreKind)
  | strayFileLocation (kind : StoreKind)
  | noMapping
  | noHost
  | noScheme (host : String)
  | noCredentials
  | emptyCredential (method part : String)
  | emptyValueField
  | zeroTimeout
  | noFileLocation
  | unreadable (detail : String)
  deriving DecidableEq, Repr

namespace Problem

def message : Problem → String
  | storeCount enabled => s!"exactly one backend must be enabled ({enabled} enabled)"
  | strayVaultOptions kind => s!"vault options given but the {kind.name} backend is enabled"
  | strayFileLocation kind => s!"json file location given but the {kind.name} backend is enabled"
  | noMapping => "a mapping is required"
  | noHost => "vault backend requires a host"
  | noScheme host => s!"vault host '{host}' must start with http:// or https://"
  | noCredentials => "vault backend requires an authentication method"
  | emptyCredential method part =>
      s!"vault {method} authentication requires a non-empty {part}"
  | emptyValueField => "vault value field must not be empty"
  | zeroTimeout => "vault timeout must be at least one second"
  | noFileLocation => "json file backend requires a file location"
  | unreadable detail => s!"invalid client config: {detail}"

def failure (p : Problem) : Failure :=
  .config p.message

end Problem

end Settings

open Settings (Problem)

def VaultSettings.hasScheme (v : VaultSettings) : Bool :=
  "http://".toList.isPrefixOf v.host.toList || "https://".toList.isPrefixOf v.host.toList

def VaultSettings.problem? (v : VaultSettings) : Option Problem :=
  if Text.trim v.host.toList = [] then some .noHost
  else if !v.hasScheme then some (.noScheme v.host)
  else if v.valueField = "" then some .emptyValueField
  else if v.timeout = 0 then some .zeroTimeout
  else v.credentials.emptyPart?.map (.emptyCredential v.credentials.method)

def StoreSettings.problem? : StoreSettings → Option Problem
  | vault settings => settings.problem?
  | environment => none
  | jsonFile path => if path = "" then some .noFileLocation else none

namespace Settings

def check (s : Settings) : Except Failure Unit :=
  match s.store.problem? with
  | some problem => .error problem.failure
  | none => .ok ()

-- the settings with this mapping and store. A mapping that does not compile is reported before any
-- fault of the store.
def make (mapping : String) (store : StoreSettings) : Except Failure Settings := do
  let settings : Settings := { mapping := ← Template.compiled mapping, store }
  settings.check
  return settings

end Settings

end SecretResolver
