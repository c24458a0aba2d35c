import SecretResolver.Http.Authority
import SecretResolver.Json.Value

set_option autoImplicit false

namespace SecretResolver.Http

inductive Method where
  | get
  | post
  deriving DecidableEq, Repr

structure Url where
  secure : Bool
  authority : String
  target : String
  deriving DecidableEq, Repr

namespace Url

-- a scheme is the same in small and in capital letters
def afterScheme? (scheme : String) (cs : List Char) : Option (List Char) :=
  if (cs.take scheme.length).map Char.toLower = scheme.toList then some (cs.drop scheme.length)
  else none

def splitScheme (cs : List Char) : Option (Bool × List Char) :=
  match afterScheme? "http://" cs with
  | some rest => some (false, rest)
  | none => (afterScheme? "https://" cs).map fun rest => (true, rest)

-- everything beyond ASCII is let through
def isTargetChar (c : Char) : Bool :=
  ' ' < c && c ≠ '\x7f' && c ≠ '<' && c ≠ '>'

def isPathChar (c : Char) : Bool :=
  isTargetChar c && c ≠ '\x60'

def isQueryChar (c : Char) : Bool :=
  isTargetChar c && c ≠ '"'

def isTarget (cs : List Char) : Bool :=
  (cs.takeWhile (· != '?')).all isPathChar && (cs.dropWhile (· != '?')).all isQueryChar

def maxBytes : Nat := 65534

def endsAuthority (c : Char) : Bool :=
  "/?#".toList.contains c

-- what is asked for begins with a slash, also where the address leaves it out
def targetOf (cs : List Char) : List Char :=
  match cs with
  | '/' :: _ => cs
  | _ => '/' :: cs

-- reads an address. What follows the first number sign is not sent.
def read (text : String) : Option Url := do
  let (secure, cs) ← splitScheme text.toList
  let authority := cs.takeWhile fun c => !endsAuthority c
  let target := targetOf ((cs.dropWhile fun c => !endsAuthority c).takeWhile (· != '#'))
  if Authority.isWellFormed authority ∧ isTarget target ∧
      text.utf8ByteSize ≤ maxBytes then
    some { secure, authority := String.ofList authority, target := String.ofList target }
  else none

end Url

structure Call where
  method : Method
  url : String
  headers : List (String × String)
  body : Option Json

structure Request where
  method : Method
  url : Url
  headers : List (String × String)
  body : Option Json

inductive Body where
  | whole (bytes : List UInt8)
  | cut

structure Reply where
  status : Nat
  body : Body

def isHeaderChar (c : Char) : Bool :=
  c = '\t' || (' ' ≤ c && c ≠ '\x7f')

def Call.request? (call : Call) : Option Request := do
  let url ← Url.read call.url
  if call.headers.all fun (_, value) => value.toList.all isHeaderChar then
    some { method := call.method, url, headers := call.headers, body := call.body }
  else none

namespace Reply

def isSuccess (r : Reply) : Bool :=
  200 ≤ r.status && r.status < 300

-- the others never have a body, whatever was sent along
def hasBody (r : Reply) : Bool :=
  200 ≤ r.status && r.status ≠ 204 && r.status ≠ 304

end Reply

end SecretResolver.Http
