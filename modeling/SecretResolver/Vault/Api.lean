import SecretResolver.Failure
import SecretResolver.Json.Value
import SecretResolver.Secret
import SecretResolver.StoreKind

set_option autoImplicit false

namespace SecretResolver.Vault

structure Api (m : Type → Type) where
  login : (mount : String) → (body : Json) → m (Except Failure Secret)
  read : (path : String) → (token : Secret) → m (Except Failure Json)

def fault (problem : String) : Failure :=
  .fetch StoreKind.vault.name problem

end SecretResolver.Vault
