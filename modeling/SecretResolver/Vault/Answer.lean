import SecretResolver.Libraries
import SecretResolver.Vault.Api

set_option autoImplicit false

-- What the replies of a vault mean.

namespace SecretResolver.Vault.Answer

open Json (Tree)
open Http (Reply)

def token? (bytes : List UInt8) : Option (Option Secret) := do
  let [auth] ← (← (← Tree.parse bytes).record?).arrange [{ name := "auth" }] | none
  Tree.optional? client auth
where
  client (tree : Tree) : Option Secret := do
    let [token] ← (← tree.record?).arrange [{ name := "client_token" }] | none
    some ⟨← Tree.string? (← token)⟩

-- the answer is itself one of the arrays or objects that a document may be nested in
def maxDataDepth : Nat := 126

def data? (bytes : List UInt8) : Option (Option Json) := do
  let [data] ← (← (← Tree.parse bytes).record?).arrange [{ name := "data" }] | none
  Tree.optional? (Tree.value? maxDataDepth) data

def errors? (bytes : List UInt8) : Option (List String) := do
  let [errors] ← (← (← Tree.parse bytes).record?).arrange
    [{ name := "errors", trailing := true }] | none
  match errors with
  | none => some []
  | some errors => (← errors.items?).mapM Tree.string?

variable [Libraries]

def detail (reply : Reply) : String :=
  match reply.content?.bind errors? with
  | none => "no details"
  | some [] => "no details"
  | some errors => "; ".intercalate errors

def readWith {α : Type} (what : String) (decode : List UInt8 → Option α) (reply : Reply) :
    Except Failure α :=
  match reply.content?.bind decode with
  | none => .error (fault s!"invalid {what} response: {Libraries.bodyComplaint what reply}")
  | some value => .ok value

def login (mount : String) (reply : Reply) : Except Failure Secret :=
  if !reply.isSuccess then
    .error (fault s!"login via auth/{mount} rejected ({reply.status}): {detail reply}")
  else
    match readWith "login" token? reply with
    | .error failure => .error failure
    | .ok none => .error (fault s!"login via auth/{mount} returned no client token")
    | .ok (some token) =>
      if token.isEmpty then .error (fault s!"login via auth/{mount} returned no client token")
      else .ok token

def read (path : String) (reply : Reply) : Except Failure Json :=
  if reply.status = 404 then .error (.notFound s!"No secret at vault path '{path}'")
  else if reply.status = 403 then
    .error (.accessDenied s!"vault path '{path}': {detail reply}")
  else if !reply.isSuccess then
    .error (fault s!"read of '{path}' failed ({reply.status}): {detail reply}")
  else
    match readWith "read" data? reply with
    | .error failure => .error failure
    | .ok none => .error (.notFound s!"No data at vault path '{path}'")
    | .ok (some data) => .ok data

end SecretResolver.Vault.Answer
