import SecretResolver.Host
import SecretResolver.StoreKind

set_option autoImplicit false

namespace SecretResolver.Environment

variable {m : Type → Type} [Monad m] [Host m]

def valueOf (name : String) : Option ByteArray → Except Failure ByteArray
  | none => .error (.notFound s!"Environment variable '{name}' not set")
  | some bytes =>
    if bytes.IsValidUTF8 then .ok bytes
    else
      .error (.fetch StoreKind.environment.name
        s!"Environment variable '{name}' is not valid unicode")

def fetch (name : String) : m (Except Failure ByteArray) := do
  return valueOf name (← Host.environmentValue name)

end SecretResolver.Environment
