import SecretResolver.Proofs.SecretsFile.Contents

set_option autoImplicit false

namespace SecretResolver.SecretsFile

variable (mapping : Template) (path : String)

def LooksUp (c : Contents) (moment : Moment) (answer : Answer) : Prop :=
  ∃ found : Except Failure String,
    c.Finds path (moment.question.location mapping .jsonFile) (found.map String.toUTF8) ∧
      answer = moment.question.answerText found

theorem looksUp_answerFrom (c : Contents) (moment : Moment) :
    LooksUp mapping path c moment (moment.question.answerFrom mapping path (.ok c)) :=
  ⟨textAt path (moment.question.location mapping .jsonFile) c,
    Contents.finds_iff.2 (valueAt_eq_map_textAt _ _ c).symm, rfl⟩

theorem eq_answerFrom_of_looksUp {c : Contents} {moment : Moment} {answer : Answer}
    (looksUp : LooksUp mapping path c moment answer) :
    answer = moment.question.answerFrom mapping path (.ok c) := by
  obtain ⟨found, finds, rfl⟩ := looksUp
  have same := Contents.finds_iff.1 finds
  rw [valueAt_eq_map_textAt] at same
  have found_eq : found = textAt path (moment.question.location mapping .jsonFile) c := by
    revert same
    generalize textAt path (moment.question.location mapping .jsonFile) c = found'
    cases found <;> cases found' <;> simp [Except.map, String.toByteArray_inj]
  rw [found_eq]
  rfl

theorem looksUp_map_answerFrom (c : Contents) (moments : List Moment) :
    List.Forall₂ (LooksUp mapping path c) moments
      (moments.map fun moment => moment.question.answerFrom mapping path (.ok c)) := by
  rw [List.forall₂_map_right_iff, List.forall₂_same]
  exact fun moment _ => looksUp_answerFrom mapping path c moment

section

variable [Libraries]

def Fails (moment : Moment) (answer : Answer) : Prop :=
  ∃ failure, Loads path moment.files (.error failure) ∧
    answer = moment.question.answerText (.error failure)

structure NeverLoaded (log : List Log.Entry) (moments : List Moment)
    (result : (List Answer × Resolver (StateM Scene)) × Scene) : Prop where
  answers : List.Forall₂ (Fails path) moments result.1.1
  kept_eq : result.1.2 = holding mapping path none
  log_eq : result.2.log = log ++ entriesOf mapping moments

structure Loaded (log : List Log.Entry) (c : Contents) (earlier : List Moment) (first : Moment)
    (later : List Moment) (result : (List Answer × Resolver (StateM Scene)) × Scene) : Prop where
  loads : Loads path first.files (.ok c)
  answers : ∃ before after, result.1.1 = before ++ after ∧
    List.Forall₂ (Fails path) earlier before ∧
      List.Forall₂ (LooksUp mapping path c) (first :: later) after
  kept_eq : result.1.2 = holding mapping path (some c)
  log_eq : result.2.log = log ++ entriesOf mapping earlier ++
    (first.question.entries mapping .jsonFile ++ [loading path c]) ++ entriesOf mapping later
  untouched : ∀ {m : Type → Type} [Monad m] [LawfulMonad m] [Host m] (key : String),
    ({ path, cache := some c } : SecretsFile).fetch key =
      (pure (valueAt path key c, { path, cache := some c }) : m _)

variable {mapping path}

theorem fails_answerFrom {files : FileTree} {failure : Failure}
    (failed : load path files = .error failure) (question : Question) :
    Fails path { files, question } (question.answerFrom mapping path (.error failure)) :=
  ⟨failure, loads_iff.2 failed, rfl⟩

section

variable {log : List Log.Entry} {files : FileTree} {question : Question} {failure : Failure}
  {answers : List Answer} {r : Resolver (StateM Scene)} {s : Scene}

theorem NeverLoaded.cons {moments : List Moment} (failed : load path files = .error failure)
    (rest : NeverLoaded mapping path (log ++ question.entries mapping .jsonFile) moments
      ((answers, r), s)) :
    NeverLoaded mapping path log ({ files, question } :: moments)
      ((question.answerFrom mapping path (.error failure) :: answers, r), s) where
  answers := .cons (fails_answerFrom failed question) rest.answers
  kept_eq := rest.kept_eq
  log_eq := rest.log_eq.trans (List.append_assoc _ _ _)

theorem Loaded.cons {c : Contents} {earlier later : List Moment} {first : Moment}
    (failed : load path files = .error failure)
    (rest : Loaded mapping path (log ++ question.entries mapping .jsonFile) c earlier first later
      ((answers, r), s)) :
    Loaded mapping path log c ({ files, question } :: earlier) first later
      ((question.answerFrom mapping path (.error failure) :: answers, r), s) where
  loads := rest.loads
  answers := by
    obtain ⟨before, after, answers_eq, failing, found⟩ := rest.answers
    exact ⟨_, after, congrArg _ answers_eq, .cons (fails_answerFrom failed question) failing, found⟩
  kept_eq := rest.kept_eq
  log_eq := by
    rw [rest.log_eq]
    simp only [entriesOf, List.flatMap_cons, List.append_assoc]
  untouched := rest.untouched

end

variable (mapping path)

theorem kept_from_first_load (steps : List Step) (s : Scene) :
    let moments := Step.moments s.files steps
    let result := ((holding mapping path none).perform steps).run s
    NeverLoaded mapping path s.log moments result ∨
      ∃ c earlier first later, moments = earlier ++ first :: later ∧
        Loaded mapping path s.log c earlier first later result := by
  induction steps generalizing s with
  | nil => exact .inl ⟨.nil, rfl, (List.append_nil _).symm⟩
  | cons step steps ih =>
    cases step with
    | change act => exact ih (s.change act)
    | ask question =>
      have asked := run_ask_unloaded mapping path question s
      simp only [Resolver.perform_ask]
      cases loaded : load path s.files with
      | error failure =>
        simp only [asked, loaded]
        rcases ih (s.noted (question.entries mapping .jsonFile)) with never | later
        · exact .inl (.cons loaded never)
        · obtain ⟨c, earlier, first, later, moments_eq, rest⟩ := later
          exact .inr ⟨c, _ :: earlier, first, later, congrArg _ moments_eq, .cons loaded rest⟩
      | ok c =>
        simp only [asked, loaded]
        obtain ⟨answers_eq, log_eq⟩ := run_perform_loaded mapping path c steps
          ((s.noted (question.entries mapping .jsonFile)).record (loading path c))
        refine .inr ⟨c, [], { files := s.files, question }, Step.moments s.files steps, rfl, ?_⟩
        exact
          { loads := loads_iff.2 loaded
            answers := by
              refine ⟨[], _, rfl, .nil, ?_⟩
              rw [answers_eq]
              exact .cons (looksUp_answerFrom _ _ c _) (looksUp_map_answerFrom _ _ c _)
            kept_eq := by rw [answers_eq]
            log_eq := by
              rw [log_eq]
              simp [entriesOf, Scene.record, Scene.noted]
            untouched := fun key => fetch_cached path key c }

end

-- The file is missing at first, then there is one without the key asked for, and then it is
-- replaced.
def replaced : List Step :=
  [.ask (.secret (.get "a")),
    .change (·.put "/run/secrets" (.file (String.ofList repeatedFile).toUTF8)),
    .ask (.fetch "b"), .change (·.put "/run/secrets" (.file "no document".toUTF8)),
    .ask (.secret (.getString "a"))]

def secretless : Scene where
  files := { working := ["work"], nodes := [(["run"], .directory)] }

theorem reads_secretless :
    secretless.files.Reads "/run/secrets" (.error .missing) ∧
      (secretless.files.put "/run/secrets" (.file (String.ofList repeatedFile).toUTF8)).Reads
        "/run/secrets" (.ok (String.ofList repeatedFile)) := by
  have placed : secretless.files.place "/run/secrets" = .ok ["run", "secrets"] := by
    decide +kernel
  have free : secretless.files.node? ["run", "secrets"] ≠ some .directory := by
    simp [FileTree.node?, secretless]
  exact ⟨.unreadable (by decide +kernel), .text (FileTree.read_put placed free)⟩

theorem kept_from_first_load_replaced :
    let result := ((holding .byId "/run/secrets" none).perform replaced).run secretless
    result.1 = ([.bytes (.error (.file "/run/secrets" "No such file or directory (os error 2)")),
        .bytes (.error (.notFound "Key 'b' not in '/run/secrets'")), .text (.ok "2")],
      holding .byId "/run/secrets" (some repeatedEntries)) ∧
    result.2.log = [(Call.get "a").entry .byId .jsonFile, loading "/run/secrets" repeatedEntries,
      (Call.getString "a").entry .byId .jsonFile] := by
  obtain ⟨unread, read⟩ := reads_secretless
  have failed := (Loads.unread unread).load_eq
  have loads := (Loads.loaded read (by simpa using writes_repeatedFile :
    Json.WritesPadded _ repeatedEntries.json)).load_eq
  intro result
  rcases kept_from_first_load .byId "/run/secrets" replaced secretless with
    never | ⟨c, earlier, first, later, moments_eq, loaded⟩
  · obtain ⟨_, _, -, rest, -⟩ := List.forall₂_cons_left_iff.1 never.answers
    obtain ⟨_, _, ⟨_, fails, -⟩, -, -⟩ := List.forall₂_cons_left_iff.1 rest
    cases loads.symm.trans fails.load_eq
  obtain ⟨before, after, answers_eq, failing, found⟩ := loaded.answers
  match earlier, moments_eq with
  | [], moments_eq =>
    cases moments_eq
    cases failed.symm.trans loaded.loads.load_eq
  | [_], moments_eq =>
    cases moments_eq
    cases loads.symm.trans loaded.loads.load_eq
    obtain ⟨_, _, ⟨_, fails, rfl⟩, ⟨⟩, rfl⟩ := List.forall₂_cons_left_iff.1 failing
    obtain ⟨_, _, second, rest, rfl⟩ := List.forall₂_cons_left_iff.1 found
    obtain ⟨_, _, third, ⟨⟩, rfl⟩ := List.forall₂_cons_left_iff.1 rest
    cases failed.symm.trans fails.load_eq
    rw [eq_answerFrom_of_looksUp _ _ second, eq_answerFrom_of_looksUp _ _ third] at answers_eq
    refine ⟨Prod.ext (answers_eq.trans ?_) loaded.kept_eq, loaded.log_eq⟩
    simp only [Question.answerFrom, Question.location, Call.location, locate_byId]
    rfl
  | _ :: _ :: _, moments_eq =>
    obtain ⟨_, _, -, rest, rfl⟩ := List.forall₂_cons_left_iff.1 failing
    obtain ⟨_, _, ⟨_, fails, -⟩, -, rfl⟩ := List.forall₂_cons_left_iff.1 rest
    have second_eq := (List.cons.inj (List.cons.inj moments_eq).2).1
    rw [← second_eq] at fails
    cases loads.symm.trans fails.load_eq

end SecretResolver.SecretsFile
