import SecretResolver.Failure
import SecretResolver.Text

set_option autoImplicit false

namespace SecretResolver

namespace Template

inductive Piece where
  | literal (text : List Char)
  | id
  deriving DecidableEq, Repr

inductive Fault where
  | unclosed
  | emptyAction
  | unsupported (body : String)
  | noAction
  deriving DecidableEq, Repr

def Fault.reason : Fault → String
  | unclosed => "unclosed action"
  | emptyAction => "empty action"
  | unsupported body => s!"unsupported action '{body}', only \x7b\x7b .ID \x7d\x7d is allowed"
  | noAction => "mapping must contain \x7b\x7b .ID \x7d\x7d"

section

variable {α : Type} (p : Char → Bool) (next : List Char → Option α)

-- goes on after as many of these characters as it can
def many : List Char → Option α
  | [] => next []
  | c :: cs =>
    match if p c then many cs else none with
    | some found => some found
    | none => next (c :: cs)

-- goes on after as few of these characters as it can, and takes them along
def few : List Char → Option (List Char × α)
  | [] => (next []).map ([], ·)
  | c :: cs =>
    match next (c :: cs) with
    | some found => some ([], found)
    | none => if p c then (few cs).map fun (passed, found) => (c :: passed, found) else none

variable {p next} {cs passed : List Char} {found : α}

theorem many_eq_some (matched : many p next cs = some found) :
    ∃ passed rest, cs = passed ++ rest ∧ (∀ c ∈ passed, p c) ∧ next rest = some found := by
  induction cs with
  | nil => exact ⟨[], [], rfl, by simp, matched⟩
  | cons c cs ih =>
    rw [many] at matched
    split at matched
    · next longer =>
      split at longer
      · next pass =>
        cases matched
        obtain ⟨passed, rest, rfl, all, goesOn⟩ := ih longer
        exact ⟨c :: passed, rest, rfl, List.forall_mem_cons.2 ⟨pass, all⟩, goesOn⟩
      · cases longer
    · exact ⟨[], c :: cs, rfl, by simp, matched⟩

theorem few_eq_some (matched : few p next cs = some (passed, found)) :
    ∃ rest, cs = passed ++ rest ∧ (∀ c ∈ passed, p c) ∧ next rest = some found := by
  induction cs generalizing passed with
  | nil =>
    obtain ⟨_, goesOn, pair_eq⟩ := Option.map_eq_some_iff.1 matched
    cases pair_eq
    exact ⟨[], rfl, by simp, goesOn⟩
  | cons c cs ih =>
    rw [few] at matched
    split at matched
    · next shortest =>
      cases matched
      exact ⟨c :: cs, rfl, by simp, shortest⟩
    · split at matched
      · next pass =>
        obtain ⟨⟨passed, _⟩, matched, pair_eq⟩ := Option.map_eq_some_iff.1 matched
        cases pair_eq
        obtain ⟨rest, rfl, all, goesOn⟩ := ih matched
        exact ⟨rest, rfl, List.forall_mem_cons.2 ⟨pass, all⟩, goesOn⟩
      · cases matched

end

def matchClosing : List Char → Option (List Char)
  | '}' :: '}' :: rest => some rest
  | _ => none

-- two braces, blanks, a body without closing braces, blanks, two braces: the body and what follows
def matchAction : List Char → Option (List Char × List Char)
  | '{' :: '{' :: cs =>
    many Text.isBlank (few (· != '}') (many Text.isBlank matchClosing)) cs
  | _ => none

theorem eq_append_of_matchAction {cs body rest : List Char}
    (matched : matchAction cs = some (body, rest)) :
    ∃ before after, cs = '{' :: '{' :: (before ++ (body ++ (after ++ '}' :: '}' :: rest))) ∧
      (∀ c ∈ before, Text.isBlank c) ∧ (∀ c ∈ after, Text.isBlank c) ∧ '}' ∉ body := by
  unfold matchAction at matched
  split at matched
  · obtain ⟨before, _, rfl, beforeBlank, matched⟩ := many_eq_some matched
    obtain ⟨_, rfl, noBrace, matched⟩ := few_eq_some matched
    obtain ⟨after, _, rfl, afterBlank, matched⟩ := many_eq_some matched
    unfold matchClosing at matched
    split at matched
    · cases matched
      exact ⟨before, after, rfl, beforeBlank, afterBlank,
        fun mem => by simpa using noBrace _ mem⟩
    · cases matched
  · cases matched

structure Match where
  before : List Char
  body : List Char
  rest : List Char

-- the first place where an action can be matched
def search : List Char → Option Match
  | [] => none
  | c :: cs =>
    match matchAction (c :: cs) with
    | some (body, rest) => some { before := [], body, rest }
    | none => (search cs).map fun found => { found with before := c :: found.before }

theorem length_rest_lt_of_search {cs : List Char} {found : Match}
    (searched : search cs = some found) : found.rest.length < cs.length := by
  induction cs generalizing found with
  | nil => cases searched
  | cons c cs ih =>
    unfold search at searched
    split at searched
    · next matched =>
      cases searched
      obtain ⟨before, after, cs_eq, -⟩ := eq_append_of_matchAction matched
      simp only [cs_eq, List.length_cons, List.length_append]
      omega
    · obtain ⟨later, rest_searched, rfl⟩ := Option.map_eq_some_iff.1 searched
      exact Nat.lt_succ_of_lt (@ih later rest_searched)

def hasOpening : List Char → Bool
  | '{' :: '{' :: _ => true
  | _ :: cs => hasOpening cs
  | [] => false

-- what is left between two actions may have none that was opened
def pushLiteral (pieces : List Piece) (text : List Char) : Except Fault (List Piece) :=
  if hasOpening text then .error .unclosed
  else if text = [] then .ok pieces
  else .ok (pieces ++ [.literal text])

def checkAction (body : List Char) : Except Fault Unit :=
  if body = ['.', 'I', 'D'] then .ok ()
  else if body = [] then .error .emptyAction
  else .error (.unsupported (String.ofList body))

-- with the pieces so far, and the number of actions among them
def parseFrom (pieces : List Piece) (actions : Nat) (cs : List Char) :
    Except Fault (List Piece × Nat) :=
  match _h : search cs with
  | none => (pushLiteral pieces cs).map (·, actions)
  | some found => do
    let pieces ← pushLiteral pieces found.before
    checkAction found.body
    parseFrom (pieces ++ [.id]) (actions + 1) found.rest
termination_by cs.length
decreasing_by exact length_rest_lt_of_search _h

def parse (cs : List Char) : Except Fault (List Piece) := do
  let (pieces, actions) ← parseFrom [] 0 cs
  if actions = 0 then .error .noAction else .ok pieces

end Template

structure Template where
  source : String
  pieces : List Template.Piece
  parse_source : Template.parse source.toList = .ok pieces
  deriving DecidableEq, Repr

namespace Template

def compile (source : String) : Except Fault Template :=
  match h : parse source.toList with
  | .error fault => .error fault
  | .ok pieces => .ok ⟨source, pieces, h⟩

theorem compile_source (t : Template) : compile t.source = .ok t := by
  unfold compile
  split
  · next h => cases t.parse_source.symm.trans h
  · next h =>
    cases t.parse_source.symm.trans h
    rfl

theorem source_of_compile {source : String} {t : Template} (h : compile source = .ok t) :
    t.source = source := by
  unfold compile at h
  split at h
  · cases h
  · cases h
    rfl

def Piece.fill (id : List Char) : Piece → List Char
  | literal text => text
  | .id => id

def fill (id : List Char) (pieces : List Piece) : List Char :=
  pieces.flatMap (Piece.fill id)

def locate (t : Template) (id : String) : String :=
  String.ofList (fill id.toList t.pieces)

def compiled (source : String) : Except Failure Template :=
  (compile source).mapError fun fault => .mapping source fault.reason

end Template

end SecretResolver
