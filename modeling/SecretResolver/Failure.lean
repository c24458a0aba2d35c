set_option autoImplicit false

namespace SecretResolver

inductive Failure where
  | config (problem : String)
  | mapping (template reason : String)
  | unavailable (store : String)
  | authentication (attempts : UInt32) (cause : String)
  | fetch (store problem : String)
  | notFound (what : String)
  | accessDenied (what : String)
  | parse (path problem : String)
  | file (path problem : String)
  deriving DecidableEq, Repr

namespace Failure

def message : Failure → String
  | config problem => s!"Invalid configuration: {problem}"
  | mapping template reason => s!"Invalid mapping '{template}': {reason}"
  | unavailable store => s!"Secret backend '{store}' not available (feature not enabled)"
  | authentication attempts cause =>
      s!"Authentication failed after {attempts} attempt(s): {cause}"
  | fetch store problem => s!"{store} error: {problem}"
  | notFound what => s!"Secret not found: {what}"
  | accessDenied what => s!"Access denied to secret: {what}"
  | parse path problem => s!"Failed to parse '{path}': {problem}"
  | file path problem => s!"Failed to read file '{path}': {problem}"

def isNotFound : Failure → Bool
  | notFound _ => true
  | _ => false

end Failure

end SecretResolver
