import SecretResolver.Vault.Api

set_option autoImplicit false

namespace SecretResolver.Vault.Payload

-- an object with data and metadata holds the secret one level down
def inner (data : Json) : Json :=
  match data.get? "data", data.get? "metadata" with
  | some (.object members), some _ => .object members
  | _, _ => data

def value (data : Json) (field path : String) : Except Failure ByteArray :=
  match (inner data).get? field with
  | some (.string text) => .ok text.toUTF8
  | some _ => .error (fault s!"field '{field}' at '{path}' is not a string")
  | none => .error (.notFound s!"No field '{field}' at vault path '{path}'")

end SecretResolver.Vault.Payload
