import SecretResolver.Secret

set_option autoImplicit false

namespace SecretResolver

inductive Credentials where
  | token (token : Secret)
  | appId (appId : String) (userId : Secret)
  | appIdFile (appId : String) (userIdPath : String)
  | appRole (roleId : String) (secretId : Option Secret)
  deriving DecidableEq

namespace Credentials

def method : Credentials → String
  | token _ => "token"
  | appId _ _ => "app-id"
  | appIdFile _ _ => "app-id (user-id file)"
  | appRole _ _ => "approle"

def parts : Credentials → List (String × String)
  | token secret => [("token", secret.expose)]
  | appId id userId => [("app_id", id), ("user_id", userId.expose)]
  | appIdFile id path => [("app_id", id), ("user_id_path", path)]
  | appRole roleId none => [("role_id", roleId)]
  | appRole roleId (some secretId) => [("role_id", roleId), ("secret_id", secretId.expose)]

def emptyPart? (c : Credentials) : Option String :=
  (c.parts.find? fun (_, value) => value == "").map (·.1)

theorem emptyPart?_eq_none_iff {c : Credentials} :
    c.emptyPart? = none ↔ ∀ part ∈ c.parts, part.2 ≠ "" := by
  simp [emptyPart?]

end Credentials

end SecretResolver
