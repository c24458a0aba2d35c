import SecretResolver.Host
import SecretResolver.Settings
import SecretResolver.Text
import SecretResolver.Vault.Answer

set_option autoImplicit false

namespace SecretResolver.Vault

structure Server where
  host : String
  tenant : Option String := none
  deriving DecidableEq, Repr

namespace Server

def ofSettings (v : VaultSettings) : Server where
  host := v.host
  tenant := v.tenant

-- the address of a path. The slashes where host and path meet do not count.
def url (s : Server) (path : String) : String :=
  String.ofList (Text.dropEndWhile (· == '/') s.host.toList ++ "/v1/".toList ++
    path.toList.dropWhile (· == '/'))

def tenantHeader (s : Server) : List (String × String) :=
  match s.tenant with
  | some name => [("X-Vault-Namespace", name)]
  | none => []

def loginCall (s : Server) (mount : String) (body : Json) : Http.Call where
  method := .post
  url := s.url s!"auth/{mount}/login"
  headers := s.tenantHeader
  body := some body

def readCall (s : Server) (path : String) (token : Secret) : Http.Call where
  method := .get
  url := s.url path
  headers := ("X-Vault-Token", token.expose) :: s.tenantHeader
  body := none

variable {m : Type → Type} [Monad m] [Host m] [Libraries]

def transportFault (problem : String) : Failure :=
  fault s!"request failed: {problem}"

def exchange (call : Http.Call) : m (Except Failure Http.Reply) := do
  match call.request? with
  | none => return .error (transportFault call.complaint)
  | some request =>
    return ((← Host.exchange request).bind Http.Reply.settled).mapError transportFault

def api (s : Server) : Api m where
  login mount body := return (← exchange (s.loginCall mount body)) >>= Answer.login mount
  read path token := return (← exchange (s.readCall path token)) >>= Answer.read path

end Server

end SecretResolver.Vault
