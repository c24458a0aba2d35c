import SecretResolver.Proofs.Scene.Files
import SecretResolver.Proofs.Text.Blanks
import SecretResolver.Proofs.Vault.Connect

set_option autoImplicit false

namespace SecretResolver

namespace Scene

def filesAfter (s : Scene) (n : Nat) : FileTree :=
  (s.delays.take n).getLast?.getD s.files

theorem filesAfter_succ (s : Scene) (n : Nat) :
    s.filesAfter (n + 1) = (s.delays.drop n).headD (s.filesAfter n) := by
  rw [List.headD_eq_head?_getD, List.head?_drop, filesAfter, List.take_add_one,
    List.getLast?_append]
  cases s.delays[n]? <;> rfl

end Scene

namespace Vault

inductive Look (path : String) (files : FileTree) : Except Failure String → Prop where
  | unread {fault : FileFault} (reads : files.Reads path (.error fault)) :
      Look path files (.error (.file path fault.message))
  | blank {text : String} (reads : files.Reads path (.ok text))
      (blank : ∀ c ∈ text.toList, Text.isBlank c) :
      Look path files (.error (.file path "user id file is empty"))
  | userId {text userId : String} {before after : List Char} (reads : files.Reads path (.ok text))
      (beforeBlank : ∀ c ∈ before, Text.isBlank c) (afterBlank : ∀ c ∈ after, Text.isBlank c)
      (text_eq : text.toList = before ++ userId.toList ++ after) (nonempty : userId ≠ "")
      (unpadded : Text.Unpadded userId.toList) : Look path files (.ok userId)

def lookAt (path : String) (files : FileTree) : Except Failure String :=
  ((files.text path).mapError fun fault => .file path fault.message).bind fun text =>
    if Text.trimmed text = "" then .error (.file path "user id file is empty")
    else .ok (Text.trimmed text)

theorem lookAt_of_unread {path : String} {files : FileTree} {fault : FileFault}
    (reads : files.Reads path (.error fault)) :
    lookAt path files = .error (.file path fault.message) := by
  rw [lookAt, FileTree.reads_iff.1 reads]
  rfl

theorem lookAt_of_read {path : String} {files : FileTree} {text : String}
    (reads : files.Reads path (.ok text)) : lookAt path files =
      if Text.trimmed text = "" then .error (.file path "user id file is empty")
      else .ok (Text.trimmed text) := by
  rw [lookAt, FileTree.reads_iff.1 reads]
  rfl

theorem look_lookAt (path : String) (files : FileTree) : Look path files (lookAt path files) := by
  have reads := files.reads_text path
  cases read : files.text path with
  | error fault =>
    rw [read] at reads
    rw [lookAt_of_unread reads]
    exact .unread reads
  | ok text =>
    rw [read] at reads
    rw [lookAt_of_read reads]
    split
    · next empty => exact .blank reads (Text.trimmed_eq_empty_iff.1 empty)
    · next nonempty =>
      obtain ⟨unpadded, before, after, beforeBlank, afterBlank, text_eq⟩ :=
        Text.trimmed_eq_iff.1 (rfl : Text.trimmed text = _)
      exact .userId reads beforeBlank afterBlank text_eq nonempty unpadded

-- There is only one thing that a look can come to.
theorem Look.eq_lookAt {path : String} {files : FileTree} {result : Except Failure String}
    (look : Look path files result) : result = lookAt path files := by
  cases look with
  | unread reads => exact (lookAt_of_unread reads).symm
  | blank reads blank => rw [lookAt_of_read reads, if_pos (Text.trimmed_eq_empty_iff.2 blank)]
  | userId reads beforeBlank afterBlank text_eq nonempty unpadded =>
    have trimmed_eq := Text.trimmed_eq_iff.2 ⟨unpadded, _, _, beforeBlank, afterBlank, text_eq⟩
    rw [lookAt_of_read reads, trimmed_eq, if_neg nonempty]

theorem look_iff {path : String} {files : FileTree} {result : Except Failure String} :
    Look path files result ↔ lookAt path files = result :=
  ⟨fun look => look.eq_lookAt.symm, fun same => same ▸ look_lookAt path files⟩

def loginBody (appId userId : String) : Json :=
  .object [("app_id", .string appId), ("user_id", .string userId)]

structure View where
  files : FileTree
  later : List FileTree
  bodies : List Json

namespace View

def slept (w : View) : View :=
  { w with files := w.later.headD w.files, later := w.later.tail }

def shown (w : View) (body : Json) : View :=
  { w with bodies := w.bodies ++ [body] }

def attempted (w : View) (appId : String) : Except Failure String → View
  | .error _ => w
  | .ok userId => w.shown (loginBody appId userId)

theorem sleep_eq {w : View} {s : Scene} (files_eq : s.files = w.files)
    (delays_eq : s.delays = w.later) :
    s.sleep.files = w.slept.files ∧ s.sleep.delays = w.slept.later := by
  rw [slept, ← files_eq, ← delays_eq, Scene.sleep]
  cases changes : s.delays <;> simp [changes]

end View

structure Plays {σ : Type} [Host (StateM σ)] (api : Api (StateM σ))
    (responses : Nat → Json → Except Failure Secret) (Sees : View → σ → Prop) : Prop where
  write : ∀ {w s} (entry : Log.Entry), Sees w s →
    Sees w ((Log.Logger.write entry : StateM σ Unit).run s).2
  sleep : ∀ {w s} (duration : Duration), Sees w s →
    Sees w.slept ((Host.sleep duration : StateM σ Unit).run s).2
  read : ∀ {w s} (path : String), Sees w s →
    (Host.fileContent path : StateM σ _).run s = (w.files.read path, s)
  login : ∀ {w s} (body : Json), Sees w s →
    ((api.login "app-id" body).run s).1 = responses w.bodies.length body ∧
      Sees (w.shown body) ((api.login "app-id" body).run s).2

section

variable {σ : Type} [Host (StateM σ)] {api : Api (StateM σ)}
  {responses : Nat → Json → Except Failure Secret} {Sees : View → σ → Prop}

theorem Plays.run_userIdIn (plays : Plays api responses Sees) {w : View} {s : σ} (sees : Sees w s)
    (path : String) : (Session.userIdIn path : StateM σ _).run s =
      ((lookAt path w.files).map Secret.mk, s) := by
  unfold Session.userIdIn Host.fileText lookAt
  simp only [bind_assoc, pure_bind, StateT.run_bind, plays.read path sees]
  change (((w.files.text path).mapError _).bind _, s) = _
  generalize (w.files.text path).mapError _ = content
  cases content with
  | error failure => rfl
  | ok text =>
    simp only [Except.bind]
    split <;> rfl

theorem Plays.run_authenticate (plays : Plays api responses Sees) {w : View} {s : σ}
    (sees : Sees w s) (appId path : String) :
    let ended := (Session.authenticate api (.appIdFile appId path)).run s
    ended.1 = (lookAt path w.files).bind (fun userId =>
        responses w.bodies.length (loginBody appId userId)) ∧
      Sees (w.attempted appId (lookAt path w.files)) ended.2 := by
  intro ended
  simp only [ended, Session.authenticate]
  rw [StateT.run_bind, plays.run_userIdIn sees path]
  cases lookAt path w.files with
  | error failure => exact ⟨rfl, sees⟩
  | ok userId => exact plays.login (loginBody appId userId) sees

end

-- what the first looks found, in order
def userIds (look : Nat → Except Failure String) (n : Nat) : List String :=
  (List.range n).filterMap fun i => (look i).toOption

-- The login of an attempt comes after one for each user ID that was found before.
def outcomeOf (appId : String) (look : Nat → Except Failure String)
    (responses : Nat → Json → Except Failure Secret) (i : Nat) : Except Failure Secret :=
  (look i).bind fun userId => responses (userIds look i).length (loginBody appId userId)

def viewBefore (start : Scene) (appId : String) (look : Nat → Except Failure String) (n : Nat) :
    View where
  files := start.filesAfter n
  later := start.delays.drop n
  bodies := (userIds look n).map (loginBody appId)

theorem bodies_attempted (start : Scene) (appId : String) (look : Nat → Except Failure String)
    (n : Nat) : ((viewBefore start appId look n).attempted appId (look n)).bodies =
      (userIds look (n + 1)).map (loginBody appId) := by
  cases found : look n <;>
    simp [viewBefore, userIds, List.range_succ, found, View.attempted, View.shown, Except.toOption]

theorem slept_attempted (start : Scene) (appId : String) (look : Nat → Except Failure String)
    (n : Nat) : ((viewBefore start appId look n).attempted appId (look n)).slept =
      viewBefore start appId look (n + 1) := by
  have bodies_eq := bodies_attempted start appId look n
  have kept : ((viewBefore start appId look n).attempted appId (look n)).files =
        start.filesAfter n ∧
      ((viewBefore start appId look n).attempted appId (look n)).later = start.delays.drop n := by
    cases look n <;> exact ⟨rfl, rfl⟩
  rw [View.slept, bodies_eq, kept.1, kept.2, viewBefore, Scene.filesAfter_succ, List.tail_drop]

structure Rotation (appId path : String) (files : Nat → FileTree)
    (responses : Nat → Json → Except Failure Secret) (policy : Retry)
    (look : Nat → Except Failure String) (n : Nat) (result : Except Failure Secret) : Prop where
  looked : ∀ i found, Look path (files i) found ↔ look i = found
  within : n < policy.attemptLimit
  failed : ∀ i < n, ∃ failure, outcomeOf appId look responses i = .error failure
  succeeded : n + 1 < policy.attemptLimit → ∃ token, outcomeOf appId look responses n = .ok token
  result_eq : result = match outcomeOf appId look responses n with
    | .ok token => .ok token
    | .error failure => .error (.authentication policy.maxAttempts failure.message)

section

variable {σ : Type} [Host (StateM σ)] {api : Api (StateM σ)}
  {responses : Nat → Json → Except Failure Secret} {Sees : View → σ → Prop}

theorem Plays.foretold (plays : Plays api responses Sees) {v : VaultSettings} {appId path : String}
    (given : v.credentials = .appIdFile appId path) {start : Scene} {s : σ}
    (sees : Sees { files := start.files, later := start.delays, bodies := [] } s) :
    let look := fun i => lookAt path (start.filesAfter i)
    (connectingTo api v s).Foretold (fun n => Sees (viewBefore start appId look n))
      (fun n => Sees ((viewBefore start appId look n).attempted appId (look n)))
      (outcomeOf appId look responses) := by
  intro look
  have first : viewBefore start appId look 0 =
      { files := start.files, later := start.delays, bodies := [] } := by
    simp [viewBefore, userIds, Scene.filesAfter]
  refine ⟨first ▸ sees, fun n s' sees => ?_, fun n s' failure sees => ?_⟩
  · have run_eq := run_attempt api v (UInt32.ofNat (n + 1)) s'
    rw [given] at run_eq
    have done := plays.run_authenticate
      (plays.write (authenticating v (UInt32.ofNat (n + 1))) sees) appId path
    rw [← run_eq] at done
    simp only [viewBefore, List.length_map] at done
    exact done
  · rw [← slept_attempted]
    exact plays.sleep _ (plays.write _ sees)

theorem Plays.rotation (plays : Plays api responses Sees) {v : VaultSettings} {appId path : String}
    (given : v.credentials = .appIdFile appId path) {start : Scene} {s : σ}
    (sees : Sees { files := start.files, later := start.delays, bodies := [] } s) :
    ∃ look n, Rotation appId path start.filesAfter responses v.retry look n
        (((Session.connect v api).run s).1.map (·.token)) ∧
      ∃ w, w.bodies = (userIds look (n + 1)).map (loginBody appId) ∧
        Sees w ((Session.connect v api).run s).2 := by
  let look (i : Nat) := lookAt path (start.filesAfter i)
  obtain ⟨n, within, failed, succeeded, result_eq, last⟩ := (plays.foretold given sees).exists_end
  have concluded : (connectingTo api v s).conclude (outcomeOf appId look responses n) =
      match outcomeOf appId look responses n with
      | .ok token => .ok token
      | .error failure => .error (.authentication v.retry.maxAttempts failure.message) := by
    cases outcomeOf appId look responses n <;> rfl
  rw [run_connect_eq]
  generalize (connectingTo api v s).run = ended at result_eq last ⊢
  obtain ⟨result, s'⟩ := ended
  refine ⟨look, n, ⟨fun i found => look_iff, within, failed, succeeded, ?_⟩,
    _, bodies_attempted start appId look n, ?_⟩
  · rw [← concluded, ← result_eq]
    cases result <;> rfl
  · cases result with
    | error failure => exact last
    | ok token => exact plays.write _ last

end

namespace Server

def loginSent (server : Server) (start : Scene) (body : Json) : Option Http.Request :=
  start.sent? (server.loginCall "app-id" body)

structure Shows (server : Server) (start : Scene) (w : View) (s : Scene) : Prop where
  files_eq : s.files = w.files
  delays_eq : s.delays = w.later
  passage : ∃ entries, Scene.Passage start s (w.bodies.filterMap (server.loginSent start)) entries

variable {server : Server} {start : Scene}

-- Whether a login can be sent does not depend on its body: all of them are, or none is.
theorem loginSent_cases (server : Server) (start : Scene) :
    (∀ body, ∃ request, server.loginSent start body = some request ∧ request.body = some body) ∨
      ∀ body, server.loginSent start body = none := by
  cases served : start.isServed with
  | false => exact .inr fun body => by simp [loginSent, Scene.sent?, served]
  | true =>
    have sent_eq (body : Json) : server.loginSent start body =
        (server.loginCall "app-id" body).request? := by simp [loginSent, Scene.sent?, served]
    simp only [sent_eq]
    cases sendable : (server.loginCall "app-id" .null).request? with
    | none =>
      refine .inr fun body => ?_
      have same := server.isSome_request?_loginCall "app-id" body .null
      rw [sendable] at same
      exact Option.not_isSome_iff_eq_none.1 (by simp [same])
    | some _ =>
      refine .inl fun body => ?_
      have same := server.isSome_request?_loginCall "app-id" body .null
      rw [sendable] at same
      obtain ⟨request, sent⟩ := Option.isSome_iff_exists.1 same
      exact ⟨request, sent, (Call.of_request? sent).2.2.2⟩

theorem map_body_loginSent (all : ∀ body, ∃ request,
      server.loginSent start body = some request ∧ request.body = some body) (bodies : List Json) :
    (bodies.filterMap (server.loginSent start)).map (·.body) = bodies.map some := by
  induction bodies with
  | nil => rfl
  | cons body bodies ih =>
    obtain ⟨request, sent, body_eq⟩ := all body
    rw [List.filterMap_cons_some sent, List.map_cons, List.map_cons, body_eq, ih]

theorem Shows.answerTo_eq {w : View} {s : Scene} (shows : server.Shows start w s) {body : Json}
    {request : Http.Request} (sendable : (server.loginCall "app-id" body).request? = some request) :
    s.answerTo 0 = start.answerTo w.bodies.length := by
  obtain ⟨entries, passage⟩ := shows.passage
  rw [passage.answerTo_eq, Nat.add_zero]
  rcases server.loginSent_cases start with all | none_sent
  · have whole : (w.bodies.filterMap (server.loginSent start)).length = w.bodies.length := by
      rw [List.filterMap_length_eq_length]
      intro body _
      obtain ⟨request, sent, -⟩ := all body
      simp [sent]
    rw [whole]
  · have refused : start.isServed = false := by
      by_contra served
      have sent := none_sent body
      simp [loginSent, Scene.sent?, served, sendable] at sent
    cases replies : start.replies with
    | none => simp [Scene.answerTo, replies]
    | some script => simp [Scene.isServed, replies] at refused

theorem Shows.of_passage {w : View} {s s' : Scene} {entries : List Log.Entry}
    (shows : server.Shows start w s) (passage : Scene.Passage s s' [] entries) :
    ∃ entries, Scene.Passage start s' (w.bodies.filterMap (server.loginSent start)) entries := by
  obtain ⟨_, before⟩ := shows.passage
  have whole := before.trans passage
  rw [List.append_nil] at whole
  exact ⟨_, whole⟩

variable [Libraries]

def responseTo (server : Server) (start : Scene) (earlier : Nat) (body : Json) :
    Except Failure Secret :=
  let call := server.loginCall "app-id" body
  match call.request? with
  | none => .error (transportFault call.complaint)
  | some _ =>
    ((start.answerTo earlier).bind Http.Reply.settled).mapError transportFault >>=
      Answer.login "app-id"

theorem Shows.login {w : View} {s : Scene} (shows : server.Shows start w s) (body : Json) :
    let ended := (server.api.login "app-id" body : StateM Scene _).run s
    ended.1 = server.responseTo start w.bodies.length body ∧
      server.Shows start (w.shown body) ended.2 := by
  intro ended
  have run_eq : ended = _ := run_login server "app-id" body s
  obtain ⟨entries, before⟩ := shows.passage
  have exchanged := before.trans (passage_exchange (server.loginCall "app-id" body) s)
  have sent_eq : s.sent? (server.loginCall "app-id" body) = server.loginSent start body := by
    rw [loginSent, Scene.sent?, Scene.sent?, before.isServed_eq]
  have bodies_eq : (w.shown body).bodies.filterMap (server.loginSent start) =
      w.bodies.filterMap (server.loginSent start) ++ (server.loginSent start body).toList := by
    rw [View.shown, List.filterMap_append]
    cases sent : server.loginSent start body <;> simp [sent]
  rw [sent_eq, ← bodies_eq] at exchanged
  cases sendable : (server.loginCall "app-id" body).request? with
  | none =>
    rw [run_exchange_of_not_sendable sendable] at run_eq exchanged
    rw [run_eq, responseTo, sendable]
    exact ⟨rfl, shows.files_eq, shows.delays_eq, _, exchanged⟩
  | some request =>
    obtain ⟨files_eq, delays_eq, -⟩ := s.exchange_keeps request
    rw [run_exchange sendable] at run_eq exchanged
    rw [run_eq, responseTo, sendable, shows.answerTo_eq sendable]
    exact ⟨rfl, files_eq.trans shows.files_eq, delays_eq.trans shows.delays_eq, _, exchanged⟩

theorem plays_api (server : Server) (start : Scene) :
    Plays (server.api : Api (StateM Scene)) (server.responseTo start) (server.Shows start) where
  write {_ s} entry shows :=
    ⟨shows.files_eq, shows.delays_eq, shows.of_passage (Scene.Passage.record s entry)⟩
  sleep {_ s} _ shows := by
    obtain ⟨files_eq, delays_eq⟩ := View.sleep_eq shows.files_eq shows.delays_eq
    exact ⟨files_eq, delays_eq, shows.of_passage (Scene.Passage.sleep s)⟩
  read {_ s} path shows := by
    rw [← shows.files_eq]
    rfl
  login body shows := shows.login body

end Server

structure Desk where
  scene : Scene
  logins : List (String × Json) := []

namespace Desk

def inScene {α : Type} (act : StateM Scene α) : StateM Desk α := fun d =>
  ((act.run d.scene).1, { d with scene := (act.run d.scene).2 })

instance : Host (StateM Desk) where
  write entry := inScene (Log.Logger.write entry)
  fileContent path := inScene (Host.fileContent path)
  environmentValue name := inScene (Host.environmentValue name)
  exchange request := inScene (Host.exchange request)
  sleep duration := inScene (Host.sleep duration)

-- Logins are answered in their order, whatever else happens.
def api (responses : Nat → Json → Except Failure Secret)
    (read : String → Secret → Except Failure Json) : Api (StateM Desk) where
  login mount body := fun d =>
    (responses d.logins.length body, { d with logins := d.logins ++ [(mount, body)] })
  read path token := return read path token

structure Shows (w : View) (d : Desk) : Prop where
  files_eq : d.scene.files = w.files
  delays_eq : d.scene.delays = w.later
  logins_eq : d.logins = w.bodies.map ("app-id", ·)

theorem plays_api (responses : Nat → Json → Except Failure Secret)
    (read : String → Secret → Except Failure Json) :
    Plays (api responses read) responses Shows where
  write _ shows := ⟨shows.files_eq, shows.delays_eq, shows.logins_eq⟩
  sleep _ shows := by
    obtain ⟨files_eq, delays_eq⟩ := View.sleep_eq shows.files_eq shows.delays_eq
    exact ⟨files_eq, delays_eq, shows.logins_eq⟩
  read {_ d} path shows := by
    rw [← shows.files_eq]
    rfl
  login {w d} body shows := by
    have length_eq : d.logins.length = w.bodies.length := by
      rw [shows.logins_eq, List.length_map]
    refine ⟨congrArg (responses · body) length_eq, shows.files_eq, shows.delays_eq, ?_⟩
    rw [View.shown, List.map_append, ← shows.logins_eq]
    rfl

end Desk

theorem user_id_file_read_afresh [Libraries] (v : VaultSettings) (appId path : String)
    (given : v.credentials = .appIdFile appId path) :
    (∀ responses read (start : Scene),
      let ended := (Session.connect v (Desk.api responses read)).run { scene := start }
      ∃ look n, Rotation appId path start.filesAfter responses v.retry look n
          (ended.1.map (·.token)) ∧
        ended.2.logins = (userIds look (n + 1)).map fun userId =>
          ("app-id", loginBody appId userId)) ∧
      ∀ start : Scene,
        let server := Server.ofSettings v
        let ended := (Session.connect v server.api : StateM Scene _).run start
        ∃ look n, Rotation appId path start.filesAfter (server.responseTo start) v.retry look n
            (ended.1.map (·.token)) ∧
          ∃ sent, ended.2.requests = start.requests ++ sent ∧
            (sent.map (·.body) = (userIds look (n + 1)).map (some <| loginBody appId ·) ∨
              sent = [] ∧ ∀ body, server.loginSent start body = none) := by
  constructor
  · intro responses read start ended
    obtain ⟨look, n, rotation, w, bodies_eq, shows⟩ :=
      (Desk.plays_api responses read).rotation given (s := { scene := start }) ⟨rfl, rfl, rfl⟩
    refine ⟨look, n, rotation, ?_⟩
    rw [shows.logins_eq, bodies_eq, List.map_map]
    rfl
  · intro start server ended
    obtain ⟨look, n, rotation, w, bodies_eq, shows⟩ :=
      (server.plays_api start).rotation given (s := start)
        ⟨rfl, rfl, [], Scene.Passage.refl start⟩
    obtain ⟨_, passage⟩ := shows.passage
    refine ⟨look, n, rotation, _, passage.requests_eq, ?_⟩
    rcases server.loginSent_cases start with all | none_sent
    · left
      rw [Server.map_body_loginSent all, bodies_eq, List.map_map]
      rfl
    · right
      exact ⟨List.filterMap_eq_nil_iff.2 fun body _ => none_sent body, none_sent⟩

-- The file is blank at first, then it holds a user ID, and then another one.
def rotatingFile (text : String) : FileTree where
  working := ["work"]
  nodes := [(["run"], .directory), (["run", "id"], .file text.toUTF8)]

def rotating : Scene where
  files := rotatingFile "\n"
  delays := [rotatingFile " first\n", rotatingFile "second"]
  replies := some [.error "the connection is gone", .error "the connection is gone"]

def rotatingVault : VaultSettings where
  host := "http://vault.test"
  credentials := .appIdFile "app" "/run/id"
  retries := 2

theorem user_id_file_read_afresh_rotating :
    let server := Server.ofSettings rotatingVault
    let ended := (Session.connect rotatingVault server.api : StateM Scene _).run rotating
    rotatingVault.credentials = .appIdFile "app" "/run/id" ∧
      Look "/run/id" (rotating.filesAfter 0) (.error (.file "/run/id" "user id file is empty")) ∧
      Look "/run/id" (rotating.filesAfter 1) (.ok "first") ∧
      Look "/run/id" (rotating.filesAfter 2) (.ok "second") ∧
      ∃ look n, Rotation "app" "/run/id" rotating.filesAfter (server.responseTo rotating)
          rotatingVault.retry look n (ended.1.map (·.token)) ∧
        ∃ sent, ended.2.requests = rotating.requests ++ sent ∧
          (sent.map (·.body) = (userIds look (n + 1)).map (some <| loginBody "app" ·) ∨
            sent = [] ∧ ∀ body, server.loginSent rotating body = none) := by
  have given : rotatingVault.credentials = .appIdFile "app" "/run/id" := rfl
  have read₀ : (rotating.filesAfter 0).read "/run/id" = .ok "\n".toUTF8 := by decide +kernel
  have read₁ : (rotating.filesAfter 1).read "/run/id" = .ok " first\n".toUTF8 := by decide +kernel
  have read₂ : (rotating.filesAfter 2).read "/run/id" = .ok "second".toUTF8 := by decide +kernel
  have trimmed₀ : Text.trimmed "\n" = "" := by decide
  have trimmed₁ : Text.trimmed " first\n" = "first" := by decide
  have trimmed₂ : Text.trimmed "second" = "second" := by decide
  have blank :
      Look "/run/id" (rotating.filesAfter 0) (.error (.file "/run/id" "user id file is empty")) := by
    rw [look_iff, lookAt_of_read (.text read₀), if_pos trimmed₀]
  have first : Look "/run/id" (rotating.filesAfter 1) (.ok "first") := by
    rw [look_iff, lookAt_of_read (.text read₁), trimmed₁, if_neg (by decide)]
  have second : Look "/run/id" (rotating.filesAfter 2) (.ok "second") := by
    rw [look_iff, lookAt_of_read (.text read₂), trimmed₂, if_neg (by decide)]
  exact ⟨given, blank, first, second,
    (user_id_file_read_afresh rotatingVault "app" "/run/id" given).2 rotating⟩

end Vault

end SecretResolver
