import SecretResolver.StoreKind

set_option autoImplicit false

namespace SecretResolver

structure Reference where
  id : String
  vaultPath : Option String := none
  variableName : Option String := none
  jsonKey : Option String := none
  deriving DecidableEq, Repr

-- an empty location counts as none
def Reference.location? (r : Reference) (kind : StoreKind) : Option String :=
  let given := match kind with
    | .vault => r.vaultPath
    | .environment => r.variableName
    | .jsonFile => r.jsonKey
  given.filter (· ≠ "")

end SecretResolver
