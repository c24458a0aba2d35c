set_option autoImplicit false

namespace SecretResolver.Log

inductive Level where
  | debug
  | info
  | warn
  deriving DecidableEq, Repr

structure Entry where
  level : Level
  message : String
  fields : List (String × String)
  deriving DecidableEq, Repr

class Logger (m : Type → Type) where
  write : Entry → m Unit

variable {m : Type → Type} [Logger m]

def debug (message : String) (fields : List (String × String)) : m Unit :=
  Logger.write ⟨.debug, message, fields⟩

def info (message : String) (fields : List (String × String)) : m Unit :=
  Logger.write ⟨.info, message, fields⟩

def warn (message : String) (fields : List (String × String)) : m Unit :=
  Logger.write ⟨.warn, message, fields⟩

end SecretResolver.Log
