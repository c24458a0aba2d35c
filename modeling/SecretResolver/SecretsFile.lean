import SecretResolver.Host
import SecretResolver.Libraries

set_option autoImplicit false

namespace SecretResolver

-- what a secrets file holds, in the order of the file. Of several values of one key the last
-- counts.
abbrev SecretsFile.Contents := List (String × String)

structure SecretsFile where
  path : String
  cache : Option SecretsFile.Contents := none

namespace SecretsFile

open Json (Tree)

namespace Contents

def parse (text : String) : Option Contents :=
  match Tree.parse text.toUTF8.data.toList with
  | some (.object members) =>
    members.mapM fun (key, value) => do
      some (← Json.TextItem.string? key, ← Tree.string? value)
  | _ => none

def lookup (c : Contents) (key : String) : Option String :=
  Json.lastOf key c

def count (c : Contents) : Nat :=
  (c.map (·.1)).eraseDups.length

end Contents

variable {m : Type → Type} [Monad m] [Host m] [Libraries]

def parsed (path text : String) : Except Failure Contents :=
  match Contents.parse text with
  | some contents => .ok contents
  | none => .error (.parse path (Libraries.jsonComplaint text))

-- nothing is kept of a file that cannot be read
def contents (f : SecretsFile) : m (Except Failure Contents × SecretsFile) := do
  match f.cache with
  | some contents => return (.ok contents, f)
  | none =>
    match (← Host.fileText f.path).bind (parsed f.path) with
    | .error failure => return (.error failure, f)
    | .ok contents =>
      Log.debug "Loaded secrets file" [("path", f.path), ("count", toString contents.count)]
      return (.ok contents, { f with cache := some contents })

def valueAt (path key : String) (c : Contents) : Except Failure ByteArray :=
  match c.lookup key with
  | some value => .ok value.toUTF8
  | none => .error (.notFound s!"Key '{key}' not in '{path}'")

def fetch (f : SecretsFile) (key : String) : m (Except Failure ByteArray × SecretsFile) := do
  let (contents, f) ← f.contents
  return (contents.bind (valueAt f.path key), f)

end SecretsFile

end SecretResolver
