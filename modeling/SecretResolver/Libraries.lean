import SecretResolver.Http

set_option autoImplicit false

namespace SecretResolver

-- What the libraries below this one decide. They word their own complaints, and what they are asked
-- to do beyond their limits they do not do.
class Libraries where
  jsonComplaint : (text : String) → String
  tomlComplaint : (text : String) → String
  -- an address is looked at first, and the complaint about a header shows no value
  addressComplaint : (url : String) → String
  headerComplaint : String
  bodyComplaint : (what : String) → Http.Reply → String
  -- the redirects that cannot be followed
  redirectComplaint? : (status : Nat) → Option String
  status_of_redirect : ∀ {status complaint}, redirectComplaint? status = some complaint →
    300 ≤ status ∧ status < 400
  bodyLimit : Nat
  -- whether a character beyond ASCII is shown as it is
  isShown : Char → Bool

instance Libraries.usual : Libraries where
  jsonComplaint _ := "it is no object of texts"
  tomlComplaint _ := "it is no such document"
  addressComplaint _ := "the address is malformed"
  headerComplaint := "a header is malformed"
  bodyComplaint _ _ := "the body is malformed"
  redirectComplaint? status :=
    if 300 ≤ status ∧ status < 400 ∧ status ≠ 304 then some "there is nowhere to go" else none
  status_of_redirect {status _} given := by
    split at given
    · next redirect => exact ⟨redirect.1, redirect.2.1⟩
    · cases given
  bodyLimit := 10 * 1024 * 1024
  isShown _ := true

namespace Http

variable [Libraries]

def Call.complaint (call : Call) : String :=
  match Url.read call.url with
  | none => Libraries.addressComplaint call.url
  | some _ => Libraries.headerComplaint

namespace Reply

-- a redirect that is left over when redirects were followed is none that can be
def settled (r : Reply) : Except String Reply :=
  match Libraries.redirectComplaint? r.status with
  | some complaint => .error complaint
  | none => .ok r

theorem settled_eq_ok_iff {r r' : Reply} : r.settled = .ok r' ↔
    Libraries.redirectComplaint? r.status = none ∧ r = r' := by
  unfold settled
  cases Libraries.redirectComplaint? r.status <;> simp

def content? (r : Reply) : Option (List UInt8) :=
  if !r.hasBody then some []
  else
    match r.body with
    | .whole bytes => if bytes.length < Libraries.bodyLimit then some bytes else none
    | .cut => none

end Reply

end Http

end SecretResolver
