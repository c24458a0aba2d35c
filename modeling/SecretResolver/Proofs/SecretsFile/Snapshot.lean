import Mathlib.Data.Finset.Card
import SecretResolver.Proofs.Resolver.Steps
import SecretResolver.Proofs.Scene.Files

set_option autoImplicit false

namespace SecretResolver

theorem nodup_eraseDups (keys : List String) : keys.eraseDups.Nodup := by
  cases keys with
  | nil => exact List.nodup_nil
  | cons key keys =>
    rw [List.eraseDups_cons, List.nodup_cons]
    constructor
    · simp [List.mem_eraseDups]
    · exact nodup_eraseDups _
termination_by keys.length
decreasing_by exact Nat.lt_succ_of_le (List.length_filter_le _ _)

namespace SecretsFile

theorem Contents.count_eq_card (c : Contents) : c.count = (c.map (·.1)).toFinset.card := by
  rw [Contents.count, ← List.toFinset_card_of_nodup (nodup_eraseDups _)]
  congr 1
  ext key
  simp only [List.mem_toFinset, List.mem_eraseDups]

def loading (path : String) (c : Contents) : Log.Entry where
  level := .debug
  message := "Loaded secrets file"
  fields := [("path", path), ("count", toString (c.map (·.1)).toFinset.card)]

section

variable [Libraries]

def load (path : String) (files : FileTree) : Except Failure Contents :=
  ((files.text path).mapError fun fault => .file path fault.message).bind (parsed path)

theorem load_text {path text : String} {files : FileTree}
    (reads : files.Reads path (.ok text)) : load path files = parsed path text := by
  rw [load, FileTree.reads_iff.1 reads]
  rfl

theorem fetch_cached {m : Type → Type} [Monad m] [LawfulMonad m] [Host m] (path key : String)
    (c : Contents) :
    ({ path, cache := some c } : SecretsFile).fetch key =
      (pure (valueAt path key c, { path, cache := some c }) : m _) := by
  simp only [fetch, contents, pure_bind]
  rfl

theorem run_contents (path : String) (s : Scene) :
    (({ path } : SecretsFile).contents : StateM Scene _).run s =
      match load path s.files with
      | .error failure => ((.error failure, { path }), s)
      | .ok c => ((.ok c, { path, cache := some c }), s.record (loading path c)) := by
  have read : ((Host.fileText path : StateM Scene _).run s).1.bind (parsed path) =
      load path s.files := rfl
  have counted (c : Contents) : loading path c =
      ⟨.debug, "Loaded secrets file", [("path", path), ("count", toString c.count)]⟩ := by
    rw [loading, Contents.count_eq_card]
  simp only [contents, Scene.run_bind, read, counted]
  cases load path s.files <;> rfl

theorem run_fetch (path key : String) (s : Scene) :
    (({ path } : SecretsFile).fetch key : StateM Scene _).run s =
      match load path s.files with
      | .error failure => ((.error failure, { path }), s)
      | .ok c => ((valueAt path key c, { path, cache := some c }), s.record (loading path c)) := by
  rw [fetch, Scene.run_bind, run_contents]
  cases load path s.files <;> rfl

end

def textAt (path key : String) (c : Contents) : Except Failure String :=
  match c.lookup key with
  | some text => .ok text
  | none => .error (.notFound s!"Key '{key}' not in '{path}'")

theorem valueAt_eq_map_textAt (path key : String) (c : Contents) :
    valueAt path key c = (textAt path key c).map String.toUTF8 := by
  unfold valueAt textAt
  cases c.lookup key <;> rfl

end SecretsFile

theorem Resolver.textOf_toUTF8 (kind : StoreKind) (id text : String) :
    textOf kind id text.toUTF8 = .ok text := by
  rw [textOf, fromUTF8?_toUTF8]

-- the answer where the location holds a text, or none can be had
def Question.answerText (question : Question) (found : Except Failure String) : Answer :=
  match question with
  | .fetch _ | .secret (.get _) | .secret (.getReference _) => .bytes (found.map String.toUTF8)
  | .secret (.getString _) => .text found

theorem Question.answer_map_toUTF8 (kind : StoreKind) (question : Question)
    (found : Except Failure String) :
    question.answer kind (found.map String.toUTF8) = question.answerText found := by
  cases question with
  | fetch location => rfl
  | secret call =>
    cases call with
    | get id => rfl
    | getReference reference => rfl
    | getString id =>
      cases found with
      | error failure => rfl
      | ok text => exact congrArg Answer.text (Resolver.textOf_toUTF8 kind id text)

def Question.answerFrom (mapping : Template) (path : String) (question : Question)
    (loaded : Except Failure SecretsFile.Contents) : Answer :=
  question.answerText (loaded.bind (SecretsFile.textAt path (question.location mapping .jsonFile)))

namespace SecretsFile

section

variable (mapping : Template) (path : String)

def holding (cache : Option Contents) : Resolver (StateM Scene) where
  mapping
  store := .jsonFile { path, cache }

theorem answer_valueAt (question : Question) (c : Contents) :
    question.answer .jsonFile (valueAt path (question.location mapping .jsonFile) c) =
      question.answerFrom mapping path (.ok c) := by
  rw [valueAt_eq_map_textAt, Question.answer_map_toUTF8]
  rfl

variable [Libraries]

theorem run_fetch_holding (cache : Option Contents) (key : String) (s : Scene) :
    ((holding mapping path cache).fetch key).run s =
      let found := (({ path, cache } : SecretsFile).fetch key : StateM Scene _).run s
      ((found.1.1, { mapping, store := .jsonFile found.1.2 }), found.2) :=
  rfl

theorem run_ask_unloaded (question : Question) (s : Scene) :
    ((holding mapping path none).ask question).run s =
      match load path s.files with
      | .error failure =>
        ((question.answerFrom mapping path (.error failure), holding mapping path none),
          s.noted (question.entries mapping .jsonFile))
      | .ok c =>
        ((question.answerFrom mapping path (.ok c), holding mapping path (some c)),
          (s.noted (question.entries mapping .jsonFile)).record (loading path c)) := by
  have files_eq (entries : List Log.Entry) : (s.noted entries).files = s.files := rfl
  simp only [Resolver.run_ask, run_fetch_holding, run_fetch, files_eq]
  cases load path s.files with
  | error failure =>
    change ((question.answer .jsonFile ((Except.error failure).map String.toUTF8), _), _) = _
    rw [Question.answer_map_toUTF8]
    rfl
  | ok c =>
    change ((question.answer .jsonFile (valueAt path (question.location mapping .jsonFile) c), _),
      _) = _
    rw [answer_valueAt]
    rfl

theorem run_ask_loaded (c : Contents) (question : Question) (s : Scene) :
    ((holding mapping path (some c)).ask question).run s =
      ((question.answerFrom mapping path (.ok c), holding mapping path (some c)),
        s.noted (question.entries mapping .jsonFile)) := by
  rw [Resolver.run_ask, ← answer_valueAt]
  rfl

def entriesOf (moments : List Moment) : List Log.Entry :=
  moments.flatMap fun moment => moment.question.entries mapping .jsonFile

theorem run_perform_loaded (c : Contents) (steps : List Step) (s : Scene) :
    let moments := Step.moments s.files steps
    let result := ((holding mapping path (some c)).perform steps).run s
    result.1 = (moments.map fun moment => moment.question.answerFrom mapping path (.ok c),
        holding mapping path (some c)) ∧
      result.2.log = s.log ++ entriesOf mapping moments := by
  induction steps generalizing s with
  | nil => exact ⟨rfl, (List.append_nil _).symm⟩
  | cons step steps ih =>
    cases step with
    | change act => exact ih (s.change act)
    | ask question =>
      obtain ⟨answers_eq, log_eq⟩ := ih (s.noted (question.entries mapping .jsonFile))
      simp only [Resolver.perform_ask, run_ask_loaded, answers_eq, log_eq]
      exact ⟨rfl, List.append_assoc _ _ _⟩

theorem answers_loaded (c : Contents) (calls : List Call) (s : Scene) :
    (((holding mapping path (some c)).answers calls).run s).1.1 =
      calls.map fun call => (Question.secret call).answerFrom mapping path (.ok c) := by
  induction calls generalizing s with
  | nil => rfl
  | cons call calls ih =>
    have asked := run_ask_loaded mapping path c (.secret call) s
    simp only [Resolver.ask] at asked
    rw [Resolver.answers_cons, asked, List.map_cons, ih]

theorem answers_holding (calls : List Call) (s : Scene) :
    (((holding mapping path none).answers calls).run s).1.1 =
      calls.map fun call => (Question.secret call).answerFrom mapping path (load path s.files) := by
  induction calls generalizing s with
  | nil => rfl
  | cons call calls ih =>
    have asked := run_ask_unloaded mapping path (.secret call) s
    simp only [Resolver.ask] at asked
    rw [Resolver.answers_cons, asked, List.map_cons]
    cases loaded : load path s.files with
    | error failure =>
      have same : load path (s.noted ((Question.secret call).entries mapping .jsonFile)).files =
          .error failure := loaded
      simp only [ih, same]
    | ok c => simp only [answers_loaded]

end

end SecretsFile

end SecretResolver
