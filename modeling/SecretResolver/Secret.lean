set_option autoImplicit false

namespace SecretResolver

-- text that must not reach a message or a log. It has no printed form: `expose` is the one way out.
structure Secret where
  expose : String
  deriving DecidableEq

def Secret.isEmpty (s : Secret) : Bool :=
  s.expose.isEmpty

end SecretResolver
