import SecretResolver.Duration
import SecretResolver.Failure
import SecretResolver.Http
import SecretResolver.Log

set_option autoImplicit false

namespace SecretResolver

inductive FileFault where
  | missing
  | notDirectory
  | isDirectory
  | nameTooLong
  | nulInName
  | notText
  deriving DecidableEq, Repr

def FileFault.message : FileFault → String
  | missing => "No such file or directory (os error 2)"
  | notDirectory => "Not a directory (os error 20)"
  | isDirectory => "Is a directory (os error 21)"
  | nameTooLong => "File name too long (os error 36)"
  | nulInName => "file name contained an unexpected NUL byte"
  | notText => "stream did not contain valid UTF-8"

-- An exchange ends with the reply that is left when redirects were followed, or with why there is
-- none.
class Host (m : Type → Type) extends Log.Logger m where
  fileContent : (path : String) → m (Except FileFault ByteArray)
  environmentValue : (name : String) → m (Option ByteArray)
  exchange : Http.Request → m (Except String Http.Reply)
  sleep : (duration : Duration) → m Unit

namespace Host

variable {m : Type → Type} [Monad m] [Host m]

def textOf (content : ByteArray) : Except FileFault String :=
  match String.fromUTF8? content with
  | some text => .ok text
  | none => .error .notText

def fileText (path : String) : m (Except Failure String) := do
  return ((← fileContent path) >>= textOf).mapError fun fault => .file path fault.message

end Host

end SecretResolver
