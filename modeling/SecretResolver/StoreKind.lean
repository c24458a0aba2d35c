set_option autoImplicit false

namespace SecretResolver

inductive StoreKind where
  | vault
  | environment
  | jsonFile
  deriving DecidableEq, Repr

def StoreKind.name : StoreKind → String
  | vault => "vault"
  | environment => "env"
  | jsonFile => "json-file"

end SecretResolver
