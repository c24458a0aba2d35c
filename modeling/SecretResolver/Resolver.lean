import SecretResolver.Environment
import SecretResolver.Reference
import SecretResolver.SecretsFile
import SecretResolver.Settings.Draft
import SecretResolver.Vault.Server
import SecretResolver.Vault.Session

set_option autoImplicit false

namespace SecretResolver

inductive Store (m : Type → Type) where
  | vault (session : Vault.Session m)
  | environment
  | jsonFile (file : SecretsFile)

namespace Store

variable {m : Type → Type}

def kind : Store m → StoreKind
  | vault _ => .vault
  | environment => .environment
  | jsonFile _ => .jsonFile

variable [Monad m] [Host m] [Libraries]

def fetch (s : Store m) (location : String) : m (Except Failure ByteArray × Store m) := do
  match s with
  | vault session => return (← session.fetch location, s)
  | environment => return (← Environment.fetch location, s)
  | jsonFile file =>
    let (result, file) ← file.fetch location
    return (result, jsonFile file)

end Store

structure Resolver (m : Type → Type) where
  mapping : Template
  store : Store m

namespace Resolver

variable {m : Type → Type} [Monad m] [Host m] [Libraries]

def kind (r : Resolver m) : StoreKind :=
  r.store.kind

def fetch (r : Resolver m) (location : String) : m (Except Failure ByteArray × Resolver m) := do
  let (result, store) ← r.store.fetch location
  return (result, { r with store })

def get (r : Resolver m) (id : String) : m (Except Failure ByteArray × Resolver m) := do
  let location := r.mapping.locate id
  Log.debug "Resolving secret" [("backend", r.kind.name), ("location", location)]
  r.fetch location

def textOf (kind : StoreKind) (id : String) (bytes : ByteArray) : Except Failure String :=
  match String.fromUTF8? bytes with
  | some text => .ok text
  | none => .error (.fetch kind.name s!"secret '{id}' is not valid UTF-8")

def getString (r : Resolver m) (id : String) : m (Except Failure String × Resolver m) := do
  let (result, r) ← r.get id
  return (result.bind (textOf r.kind id), r)

def getReference (r : Resolver m) (reference : Reference) :
    m (Except Failure ByteArray × Resolver m) := do
  match reference.location? r.kind with
  | some location =>
    Log.debug "Resolving secret by definition"
      [("backend", r.kind.name), ("location", location)]
    r.fetch location
  | none => r.get reference.id

def openStore : StoreSettings → m (Except Failure (Store m))
  | .vault settings => do
    return (← Vault.Session.connect settings (Vault.Server.ofSettings settings).api).map .vault
  | .environment => return .ok .environment
  | .jsonFile path => return .ok (.jsonFile { path })

def ofSettings (s : Settings) : m (Except Failure (Resolver m)) := do
  match s.check with
  | .error failure => return .error failure
  | .ok () =>
    Log.debug "Creating secrets client"
      [("backend", s.store.kind.name), ("mapping", s.mapping.source)]
    return (← openStore s.store).map fun store => { mapping := s.mapping, store }

def ofDraft (d : Draft) : m (Except Failure (Resolver m)) := do
  match d.settings with
  | .error failure => return .error failure
  | .ok settings => ofSettings settings

end Resolver

end SecretResolver
