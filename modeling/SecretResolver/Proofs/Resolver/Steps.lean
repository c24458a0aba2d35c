import SecretResolver.Proofs.Resolver.Calls

set_option autoImplicit false

namespace SecretResolver

inductive Question where
  | fetch (location : String)
  | secret (call : Call)

namespace Question

def location (mapping : Template) (kind : StoreKind) : Question → String
  | .fetch location => location
  | .secret call => call.location mapping kind

def entries (mapping : Template) (kind : StoreKind) : Question → List Log.Entry
  | .fetch _ => []
  | .secret call => [call.entry mapping kind]

def answer (kind : StoreKind) (question : Question) (found : Except Failure ByteArray) : Answer :=
  match question with
  | .fetch _ => .bytes found
  | .secret call => call.answer kind found

end Question

inductive Step where
  | change (act : FileTree → FileTree)
  | ask (question : Question)

structure Moment where
  files : FileTree
  question : Question

def Step.moments (files : FileTree) : List Step → List Moment
  | [] => []
  | .change act :: steps => moments (act files) steps
  | .ask question :: steps => { files, question } :: moments files steps

def Scene.change (act : FileTree → FileTree) (s : Scene) : Scene :=
  { s with files := act s.files }

def Scene.noted (s : Scene) (entries : List Log.Entry) : Scene :=
  { s with log := s.log ++ entries }

namespace Resolver

variable [Libraries]

def ask {m : Type → Type} [Monad m] [Host m] (r : Resolver m) :
    Question → m (Answer × Resolver m)
  | .fetch location => do
    let (result, r) ← r.fetch location
    return (.bytes result, r)
  | .secret call => r.answer call

def perform (r : Resolver (StateM Scene)) :
    List Step → StateM Scene (List Answer × Resolver (StateM Scene))
  | [] => return ([], r)
  | .change act :: steps => do
    modify (Scene.change act)
    r.perform steps
  | .ask question :: steps => do
    let (first, r) ← r.ask question
    let (rest, r) ← r.perform steps
    return (first :: rest, r)

variable (r : Resolver (StateM Scene)) (s : Scene)

theorem run_ask (question : Question) :
    (r.ask question).run s =
      let found := (r.fetch (question.location r.mapping r.kind)).run
        (s.noted (question.entries r.mapping r.kind))
      ((question.answer found.1.2.kind found.1.1, found.1.2), found.2) := by
  cases question with
  | fetch location =>
    simp only [Question.entries, Scene.noted, List.append_nil]
    rfl
  | secret call => exact r.run_answer_eq s call

theorem perform_ask (question : Question) (steps : List Step) :
    let first := (r.ask question).run s
    let rest := (first.1.2.perform steps).run first.2
    (r.perform (.ask question :: steps)).run s = ((first.1.1 :: rest.1.1, rest.1.2), rest.2) :=
  rfl

end Resolver

end SecretResolver
