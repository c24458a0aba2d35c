import SecretResolver.Proofs.Scene.Passage
import SecretResolver.Resolver

set_option autoImplicit false

namespace SecretResolver

inductive Call where
  | get (id : String)
  | getString (id : String)
  | getReference (reference : Reference)

inductive Answer where
  | bytes (result : Except Failure ByteArray)
  | text (result : Except Failure String)

def Call.location (mapping : Template) (kind : StoreKind) : Call → String
  | .get id | .getString id => mapping.locate id
  | .getReference reference => (reference.location? kind).getD (mapping.locate reference.id)

def Call.entry (mapping : Template) (kind : StoreKind) (call : Call) : Log.Entry where
  level := .debug
  message := match call with
    | .get _ | .getString _ => "Resolving secret"
    | .getReference reference =>
      if (reference.location? kind).isSome then "Resolving secret by definition"
      else "Resolving secret"
  fields := [("backend", kind.name), ("location", call.location mapping kind)]

-- what is made of the bytes that were found
def Call.answer (kind : StoreKind) (call : Call) (found : Except Failure ByteArray) : Answer :=
  match call with
  | .get _ | .getReference _ => .bytes found
  | .getString id => .text (found.bind (Resolver.textOf kind id))

namespace Resolver

variable [Libraries]

section

variable {m : Type → Type} [Monad m] [Host m]

def answer (r : Resolver m) : Call → m (Answer × Resolver m)
  | .get id => do
    let (result, r) ← r.get id
    return (.bytes result, r)
  | .getString id => do
    let (result, r) ← r.getString id
    return (.text result, r)
  | .getReference reference => do
    let (result, r) ← r.getReference reference
    return (.bytes result, r)

def answers (r : Resolver m) : List Call → m (List Answer × Resolver m)
  | [] => return ([], r)
  | call :: calls => do
    let (first, r) ← r.answer call
    let (rest, r) ← answers r calls
    return (first :: rest, r)

def lifetime (settings : Settings) (calls : List Call) : m (Except Failure (List Answer)) := do
  match ← ofSettings settings with
  | .error failure => return .error failure
  | .ok r => return .ok (← r.answers calls).1

end

variable (r : Resolver (StateM Scene)) (s : Scene)

theorem mapping_fetch (location : String) :
    ((r.fetch location).run s).1.2.mapping = r.mapping :=
  rfl

-- Whatever the question, it comes to one entry in the log and one location.
theorem run_answer_eq (call : Call) :
    (r.answer call).run s =
      let found := (r.fetch (call.location r.mapping r.kind)).run
        (s.record (call.entry r.mapping r.kind))
      ((call.answer found.1.2.kind found.1.1, found.1.2), found.2) := by
  cases call with
  | get id => rfl
  | getString id => rfl
  | getReference reference =>
    cases given : reference.location? r.kind with
    | none =>
      simp only [answer, getReference, Call.location, Call.entry, given]
      rfl
    | some location =>
      simp only [answer, getReference, Call.location, Call.entry, given]
      rfl

theorem run_answer (call : Call) : ∃ answer,
    (r.answer call).run s =
      let found := (r.fetch (call.location r.mapping r.kind)).run
        (s.record (call.entry r.mapping r.kind))
      ((answer, found.1.2), found.2) :=
  ⟨_, r.run_answer_eq s call⟩

theorem mapping_answer (call : Call) : ((r.answer call).run s).1.2.mapping = r.mapping := by
  obtain ⟨answer, run_eq⟩ := r.run_answer s call
  rw [run_eq]
  exact mapping_fetch r _ _

theorem answers_cons (call : Call) (calls : List Call) :
    let first := (r.answer call).run s
    let rest := (first.1.2.answers calls).run first.2
    (r.answers (call :: calls)).run s = ((first.1.1 :: rest.1.1, rest.1.2), rest.2) :=
  rfl

theorem mapping_answers (calls : List Call) :
    ((r.answers calls).run s).1.2.mapping = r.mapping := by
  induction calls generalizing r s with
  | nil => rfl
  | cons call calls ih =>
    rw [answers_cons]
    exact (ih _ _).trans (r.mapping_answer s call)

theorem run_lifetime (settings : Settings) (calls : List Call) :
    (lifetime settings calls : StateM Scene _).run s =
      match (ofSettings settings : StateM Scene _).run s with
      | (.error failure, s') => (.error failure, s')
      | (.ok r, s') => (.ok ((r.answers calls).run s').1.1, ((r.answers calls).run s').2) := by
  unfold lifetime
  rw [Scene.run_bind]
  obtain ⟨made, s'⟩ := (ofSettings settings : StateM Scene _).run s
  cases made <;> rfl

end Resolver

end SecretResolver
