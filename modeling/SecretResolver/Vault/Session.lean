import SecretResolver.Host
import SecretResolver.Settings
import SecretResolver.Text.Quoted
import SecretResolver.Vault.Payload

set_option autoImplicit false

namespace SecretResolver.Vault

structure Session (m : Type → Type) where
  api : Api m
  token : Secret
  valueField : String

namespace Session

variable {m : Type → Type} [Monad m]

section Connecting

variable [Host m]

def userIdIn (path : String) : m (Except Failure Secret) := do
  return (← Host.fileText path).bind fun text =>
    let userId := Text.trimmed text
    if userId = "" then .error (.file path "user id file is empty") else .ok ⟨userId⟩

def appIdBody (appId : String) (userId : Secret) : Json :=
  .object [("app_id", .string appId), ("user_id", .string userId.expose)]

def appRoleBody (roleId : String) (secretId : Option Secret) : Json :=
  .object (("role_id", .string roleId) ::
    secretId.toList.map fun secretId => ("secret_id", .string secretId.expose))

def authenticate (api : Api m) : Credentials → m (Except Failure Secret)
  | .token token => return .ok token
  | .appId appId userId => api.login "app-id" (appIdBody appId userId)
  | .appIdFile appId path => do
    match ← userIdIn path with
    | .error failure => return .error failure
    | .ok userId => api.login "app-id" (appIdBody appId userId)
  | .appRole roleId secretId => api.login "approle" (appRoleBody roleId secretId)

def attempt (v : VaultSettings) (api : Api m) (number : UInt32) : m (Except Failure Secret) := do
  Log.debug "Authenticating to vault"
    [("host", v.host), ("method", v.credentials.method), ("attempt", toString number)]
  authenticate api v.credentials

def connect (v : VaultSettings) (api : Api m) : m (Except Failure (Session m)) := do
  match ← v.retry.run Host.sleep (attempt v api) with
  | .error failure => return .error failure
  | .ok token =>
    Log.info "Authenticated to vault" [("host", v.host), ("method", v.credentials.method)]
    return .ok { api, token, valueField := v.valueField }

end Connecting

def fetch (s : Session m) (path : String) : m (Except Failure ByteArray) := do
  return (← s.api.read path s.token).bind fun data => Payload.value data s.valueField path

end Session

variable [Libraries]

def describePiece : Template.Piece → String
  | .literal text => s!"Literal({Text.Quoted.quote (String.ofList text)})"
  | .id => "Id"

def describeMapping (t : Template) : String :=
  let pieces := ", ".intercalate (t.pieces.map describePiece)
  s!"SecretMapper \x7b template: {Text.Quoted.quote t.source}, segments: [{pieces}] \x7d"

def Session.describe {m : Type → Type} (s : Session m) (mapping : Template) : String :=
  let mapper := describeMapping mapping
  let token := "SecretBox<str>([REDACTED])"
  let field := Text.Quoted.quote s.valueField
  s!"VaultBackend \x7b mapper: {mapper}, token: {token}, value_field: {field}, .. \x7d"

end SecretResolver.Vault
