import SecretResolver.Settings

set_option autoImplicit false

-- Settings put together choice by choice. Of two choices for one thing the later counts.

namespace SecretResolver

inductive Choice where
  | mapping (source : String)
  | enable (kind : StoreKind)
  | host (host : String)
  | credentials (credentials : Credentials)
  | retries (count : UInt32)
  | retryDelay (seconds : UInt64)
  | tenant (name : String)
  | valueField (field : String)
  | timeout (seconds : UInt64)
  | fileLocation (path : String)
  deriving DecidableEq

structure VaultOptions where
  host : Option String := none
  credentials : Option Credentials := none
  retries : Option UInt32 := none
  retryDelay : Option UInt64 := none
  tenant : Option String := none
  valueField : Option String := none
  timeout : Option UInt64 := none
  deriving DecidableEq

namespace VaultOptions

def isGiven (o : VaultOptions) : Bool :=
  o.host.isSome || o.credentials.isSome || o.retries.isSome || o.retryDelay.isSome ||
    o.tenant.isSome || o.valueField.isSome || o.timeout.isSome

def settings (o : VaultOptions) : Except Settings.Problem VaultSettings :=
  match o.host, o.credentials with
  | none, _ => .error .noHost
  | some _, none => .error .noCredentials
  | some host, some credentials =>
    let usual : VaultSettings := { host, credentials }
    .ok
      { host, credentials
        retries := o.retries.getD usual.retries
        retryDelay := o.retryDelay.getD usual.retryDelay
        tenant := o.tenant
        valueField := o.valueField.getD usual.valueField
        timeout := o.timeout.getD usual.timeout }

end VaultOptions

structure Draft where
  mapping : Option String := none
  enabled : List StoreKind := []
  vault : VaultOptions := {}
  fileLocation : Option String := none
  deriving DecidableEq

namespace Draft

def choose (d : Draft) : Choice → Draft
  | .mapping source => { d with mapping := some source }
  | .enable kind => { d with enabled := kind :: d.enabled }
  | .host host => { d with vault.host := some host }
  | .credentials credentials => { d with vault.credentials := some credentials }
  | .retries count => { d with vault.retries := some count }
  | .retryDelay seconds => { d with vault.retryDelay := some seconds }
  | .tenant name => { d with vault.tenant := some name }
  | .valueField field => { d with vault.valueField := some field }
  | .timeout seconds => { d with vault.timeout := some seconds }
  | .fileLocation path => { d with fileLocation := some path }

def ofChoices (choices : List Choice) : Draft :=
  choices.foldl choose {}

def kind (d : Draft) : Except Settings.Problem StoreKind :=
  match d.enabled with
  | [kind] =>
    if kind ≠ .vault ∧ d.vault.isGiven then .error (.strayVaultOptions kind)
    else if kind ≠ .jsonFile ∧ d.fileLocation.isSome then .error (.strayFileLocation kind)
    else .ok kind
  | kinds => .error (.storeCount kinds.length)

def store (d : Draft) : StoreKind → Except Settings.Problem StoreSettings
  | .vault => d.vault.settings.map .vault
  | .environment => .ok .environment
  | .jsonFile =>
    match d.fileLocation with
    | none => .error .noFileLocation
    | some path => .ok (.jsonFile path)

def settings (d : Draft) : Except Failure Settings := do
  let kind ← d.kind.mapError (·.failure)
  let some source := d.mapping | throw Settings.Problem.noMapping.failure
  let mapping ← Template.compiled source
  let store ← (d.store kind).mapError (·.failure)
  let settings : Settings := { mapping, store }
  settings.check
  return settings

end Draft

end SecretResolver
