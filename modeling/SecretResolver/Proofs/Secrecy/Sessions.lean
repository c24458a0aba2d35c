import SecretResolver.Proofs.Secrecy.Replies
import SecretResolver.Proofs.Vault.Connect

set_option autoImplicit false

namespace SecretResolver

namespace Vault

variable [Libraries]

section

variable {store : StoreSettings} {asked : List String}
  {Replies : Nat → Http.Reply → Http.Reply → Prop} {limit : Nat}

theorem alike_exchange {s s' : Scene} (alike : Scene.Alike store asked Replies s s')
    (served : s.isServed = true) (request request' : Http.Request) :
    Scene.Alike store asked Replies (s.exchange request).2 (s'.exchange request').2 := by
  have passage := Scene.Passage.exchange served request
  have passage' := Scene.Passage.exchange (alike.isServed_eq.symm.trans served) request'
  obtain ⟨files_eq, delays_eq, environment_eq⟩ := s.exchange_keeps request
  obtain ⟨files_eq', delays_eq', environment_eq'⟩ := s'.exchange_keeps request'
  constructor
  · rw [files_eq, files_eq']
    exact alike.files
  · rw [delays_eq, delays_eq']
    exact alike.delays
  · rw [environment_eq, environment_eq']
    exact alike.environment
  · intro given location mem
    rw [Scene.Unmistakable, environment_eq]
    exact alike.unmistakable given location mem
  · rw [passage.isServed_eq, passage'.isServed_eq]
    exact alike.isServed_eq
  · intro i
    rw [passage.requests_eq, List.length_append, Nat.add_assoc, passage.answerTo_eq,
      passage'.answerTo_eq]
    exact alike.replies (1 + i)
  · rw [passage.log_eq, passage'.log_eq, alike.log_eq]

theorem related_exchange {S : Http.Reply → Http.Reply → Prop} {call call' : Http.Call}
    (url_eq : call.url = call'.url) (same : call.request?.isSome = call'.request?.isSome)
    (replied : ∀ sent < limit, ∀ reply reply', Replies sent reply reply' →
      Agree S reply.settled reply'.settled) :
    Related (Scene.Alike store asked Replies) limit (Agree S) (Server.exchange call)
      (Server.exchange call') := by
  intro s s' alike within
  cases sent : call.request? with
  | none =>
    have sent' : call'.request? = none := by simpa [sent] using same.symm
    rw [Server.run_exchange_of_not_sendable sent, Server.run_exchange_of_not_sendable sent',
      Http.Call.complaint, Http.Call.complaint, url_eq]
    exact ⟨.error _, alike⟩
  | some request =>
    obtain ⟨request', sent'⟩ : ∃ request', call'.request? = some request' :=
      Option.isSome_iff_exists.1 (by rw [← same, sent]; rfl)
    rw [Server.run_exchange sent] at within ⊢
    rw [Server.run_exchange sent']
    cases served : s.isServed with
    | false =>
      have refused := Scene.exchange_of_not_served served request
      have refused' :=
        Scene.exchange_of_not_served (alike.isServed_eq.symm.trans served) request'
      have answered := alike.replies 0
      rw [← Scene.exchange_reply request, ← Scene.exchange_reply request', refused, refused']
        at answered ⊢
      have told := answered.error_eq
      rw [told]
      exact ⟨.error _, alike⟩
    | true =>
      refine ⟨?_, alike_exchange alike served request request'⟩
      have room : s.requests.length < limit := by
        have passage := Scene.Passage.exchange served request
        rw [passage.requests_eq, List.length_append] at within
        exact within
      refine ((alike.replies 0).bind fun reply reply' related => ?_).mapError _
      exact replied _ room _ _ related

end

theorem Server.grows_exchange (call : Http.Call) :
    Grows (exchange call : StateM Scene (Except Failure Http.Reply)) :=
  .of_passage fun s => ⟨_, _, passage_exchange call s⟩

omit [Libraries] in
theorem Server.isSome_request?_readCall (server : Server) (path : String) {token token' : Secret}
    (same : token.SameToken token') :
    (server.readCall path token).request?.isSome =
      (server.readCall path token').request?.isSome := by
  have sendable_eq : token.expose.toList.all Http.isHeaderChar =
      token'.expose.toList.all Http.isHeaderChar := same.isSendable_eq
  rw [Call.isSome_request?, Call.isSome_request?]
  simp only [readCall, List.all_cons, sendable_eq]

namespace Session

omit [Libraries] in
theorem related_connect_of_attempts {R : Scene → Scene → Prop} {limit : Nat} (blind : Blind R)
    {v v' : VaultSettings} {api api' : Api (StateM Scene)} {S : Secret → Secret → Prop}
    {T : Session (StateM Scene) → Session (StateM Scene) → Prop} (retry_eq : v.retry = v'.retry)
    (grows : ∀ number, Grows (attempt v api number))
    (attempts : ∀ number,
      Related R limit (Agree S) (attempt v api number) (attempt v' api' number))
    (noted : Related R limit Eq (Log.Logger.write (authenticated v) : StateM Scene Unit)
      (Log.Logger.write (authenticated v')))
    (opened : ∀ token token', S token token' →
      T { api, token, valueField := v.valueField }
        { api := api', token := token', valueField := v'.valueField }) :
    Related R limit (Agree T) (connect v api) (connect v' api') := by
  unfold connect
  rw [← retry_eq]
  refine (Related.run blind v.retry grows attempts).bind ?_ fun result result' agree => ?_
  · intro result
    cases result with
    | error failure => exact .pure _
    | ok token => exact (Grows.write _).bind fun _ => .pure _
  · cases agree with
    | error failure => exact .pure (.error failure)
    | ok related =>
      exact noted.bind (fun _ => .pure _) fun _ _ _ => .pure (.ok (opened _ _ related))

variable {v : VaultSettings}

section

variable {asked : List String} {Replies : Nat → Http.Reply → Http.Reply → Prop} {limit : Nat}
  (logins : ∀ sent < limit, ∀ reply reply', Replies sent reply reply' → reply.LoginAlike reply')
include logins

theorem related_login (mount : String) (body body' : Json) :
    Related (Scene.Alike (.vault v) asked Replies) limit (Agree Secret.SameToken)
      ((Server.ofSettings v).api.login mount body)
      ((Server.ofSettings v).api.login mount body') := by
  have exchanged : Related (Scene.Alike (.vault v) asked Replies) limit
      (Agree Http.Reply.LoginAlike)
      (Server.exchange ((Server.ofSettings v).loginCall mount body))
      (Server.exchange ((Server.ofSettings v).loginCall mount body')) := by
    refine related_exchange ?_ (Server.isSome_request?_loginCall _ mount body body') ?_
    · rfl
    intro sent less reply reply' related
    exact (logins sent less reply reply' related).agree_settled
  apply exchanged.map
  exact fun _ _ agree => agree.bind fun _ _ alike => Answer.agree_login mount alike

omit logins in
theorem related_userIdIn {appId path : String} (given : v.credentials = .appIdFile appId path) :
    Related (Scene.Alike (.vault v) asked Replies) limit (Agree fun _ _ => True) (userIdIn path)
      (userIdIn path) := by
  apply (Related.fileText fun s s' alike => alike.files appId path given).map
  intro read read' agree
  refine agree.bind fun text text' empty_iff => ?_
  by_cases empty : Text.trimmed text = ""
  · rw [if_pos empty, if_pos (empty_iff.1 empty)]
    exact .error _
  · rw [if_neg empty, if_neg (mt empty_iff.2 empty)]
    exact .ok trivial

omit logins in
theorem grows_login (server : Server) (mount : String) (body : Json) :
    Grows (server.api.login mount body : StateM Scene (Except Failure Secret)) :=
  (Server.grows_exchange _).map

theorem related_authenticate {c : Credentials} (alike : v.credentials.Alike c) :
    Related (Scene.Alike (.vault v) asked Replies) limit (Agree Secret.SameToken)
      (authenticate (Server.ofSettings v).api v.credentials)
      (authenticate (Server.ofSettings v).api c) := by
  generalize given : v.credentials = shown at alike ⊢
  cases alike with
  | token same => exact .pure (.ok same)
  | appId appId same => exact related_login logins "app-id" _ _
  | appIdFile appId path =>
    refine (related_userIdIn given).bind ?_ fun read read' agree => ?_
    · intro read
      cases read with
      | error failure => exact .pure _
      | ok userId => exact grows_login _ _ _
    · cases agree with
      | error failure => exact .pure (.error failure)
      | ok _ => exact related_login logins "app-id" _ _
  | appRole roleId => exact related_login logins "approle" _ _
  | appRoleSecret roleId same => exact related_login logins "approle" _ _

omit logins in
theorem grows_authenticate (v : VaultSettings) :
    Grows (authenticate (Server.ofSettings v).api v.credentials :
      StateM Scene (Except Failure Secret)) := by
  apply Grows.of_passage
  intro s
  obtain ⟨_, attempted⟩ := attempted_authenticate v s
  exact ⟨_, _, attempted.passage⟩

omit logins in
theorem grows_attempt (v : VaultSettings) (number : UInt32) :
    Grows (attempt v (Server.ofSettings v).api number : StateM Scene (Except Failure Secret)) := by
  apply Grows.of_passage
  intro s
  obtain ⟨_, attempted⟩ := attempted_attempt v number s
  exact ⟨_, _, attempted.passage⟩

inductive Alike (v : VaultSettings) : Session (StateM Scene) → Session (StateM Scene) → Prop where
  | intro {token token' : Secret} (same : token.SameToken token') :
      Alike v { api := (Server.ofSettings v).api, token, valueField := v.valueField }
        { api := (Server.ofSettings v).api, token := token', valueField := v.valueField }

theorem related_connect {c : Credentials} (alike : v.credentials.Alike c) :
    Related (Scene.Alike (.vault v) asked Replies) limit (Agree (Alike v))
      (connect v (Server.ofSettings v).api)
      (connect { v with credentials := c } (Server.ofSettings v).api) := by
  have attempts (number : UInt32) : Related (Scene.Alike (.vault v) asked Replies) limit
      (Agree Secret.SameToken) (attempt v (Server.ofSettings v).api number)
      (attempt { v with credentials := c } (Server.ofSettings v).api number) := by
    unfold attempt
    rw [← alike.method_eq]
    exact (Related.write Scene.Alike.blind _).bind (fun _ => grows_authenticate v)
      fun _ _ _ => related_authenticate logins alike
  refine related_connect_of_attempts Scene.Alike.blind rfl (grows_attempt v) attempts ?_
    fun _ _ same => .intro same
  unfold authenticated
  rw [← alike.method_eq]
  exact Related.write Scene.Alike.blind _

end

theorem grows_connect (v : VaultSettings) :
    Grows (connect v (Server.ofSettings v).api :
      StateM Scene (Except Failure (Session (StateM Scene)))) := by
  apply Grows.of_passage
  intro s
  obtain ⟨_, _, connected⟩ := exists_connected v s
  exact ⟨_, _, connected.attempts.passage⟩

section

variable {asked : List String} {Replies : Nat → Http.Reply → Http.Reply → Prop} {limit : Nat}
  (reads : ∀ sent < limit, ∀ reply reply', Replies sent reply reply' →
    reply.ReadAlike v.valueField reply')
include reads

theorem related_read (path : String) {token token' : Secret} (same : token.SameToken token') :
    Related (Scene.Alike (.vault v) asked Replies) limit (Agree (DataAlike v.valueField))
      ((Server.ofSettings v).api.read path token) ((Server.ofSettings v).api.read path token') := by
  have exchanged : Related (Scene.Alike (.vault v) asked Replies) limit
      (Agree (Http.Reply.ReadAlike v.valueField))
      (Server.exchange ((Server.ofSettings v).readCall path token))
      (Server.exchange ((Server.ofSettings v).readCall path token')) := by
    refine related_exchange ?_ (Server.isSome_request?_readCall _ path same) ?_
    · rfl
    intro sent less reply reply' related
    exact (reads sent less reply reply' related).agree_settled
  apply exchanged.map
  exact fun _ _ agree => agree.bind fun _ _ alike => Answer.agree_read path alike

theorem related_fetch {session session' : Session (StateM Scene)}
    (alike : Alike v session session') (path : String) :
    Related (Scene.Alike (.vault v) asked Replies) limit (Agree BothTexts) (session.fetch path)
      (session'.fetch path) := by
  cases alike with
  | intro same =>
    apply (related_read reads path same).map
    exact fun _ _ agree => agree.bind fun _ _ alike => Payload.agree_value path alike

end

end Session

end Vault

end SecretResolver
