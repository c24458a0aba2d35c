import SecretResolver.Proofs.Http.Target
import SecretResolver.Proofs.Vault.Exchange
import SecretResolver.Vault.Session

set_option autoImplicit false

namespace SecretResolver

def Credentials.mount? : Credentials → Option String
  | .token _ => none
  | .appId _ _ | .appIdFile _ _ => some "app-id"
  | .appRole _ _ => some "approle"

theorem Credentials.eq_of_mount? {c : Credentials} {mount : String}
    (h : c.mount? = some mount) : mount = "app-id" ∨ mount = "approle" := by
  cases c with
  | token token => cases h
  | appId appId userId => exact .inl (Option.some.inj h).symm
  | appIdFile appId path => exact .inl (Option.some.inj h).symm
  | appRole roleId secretId => exact .inr (Option.some.inj h).symm

namespace Vault

open Scene (Passage)

inductive IsLoginBody : Credentials → Json → Prop where
  | appId (appId : String) (userId : Secret) :
      IsLoginBody (.appId appId userId)
        (.object [("app_id", .string appId), ("user_id", .string userId.expose)])
  | appIdFile (appId path userId : String) :
      IsLoginBody (.appIdFile appId path)
        (.object [("app_id", .string appId), ("user_id", .string userId)])
  | appRole (roleId : String) :
      IsLoginBody (.appRole roleId none) (.object [("role_id", .string roleId)])
  | appRoleSecret (roleId : String) (secretId : Secret) :
      IsLoginBody (.appRole roleId (some secretId))
        (.object [("role_id", .string roleId), ("secret_id", .string secretId.expose)])

-- All of an address from its first number sign on is not sent, be it the end of a host, and what
-- follows a question mark is no path.
structure IsLogin (v : VaultSettings) (request : Http.Request) : Prop where
  method_eq : request.method = .post
  mounted : ∃ mount, v.credentials.mount? = some mount ∧
    Http.Url.read ((Server.ofSettings v).url s!"auth/{mount}/login") = some request.url ∧
    ('#' ∉ v.host.toList → '?' ∉ v.host.toList →
      s!"/v1/auth/{mount}/login".toList <:+ request.url.target.toList ∧
        '?' ∉ request.url.target.toList)
  no_token : request.header? "X-Vault-Token" = none
  tenant_eq : request.header? "X-Vault-Namespace" = v.tenant
  body : ∃ body, request.body = some body ∧ IsLoginBody v.credentials body

theorem Server.header?_tenant (server : Server) :
    server.tenantHeader.lookup "X-Vault-Namespace" = server.tenant := by
  unfold Server.tenantHeader
  cases server.tenant <;> rfl

theorem Server.header?_token (server : Server) :
    server.tenantHeader.lookup "X-Vault-Token" = none := by
  unfold Server.tenantHeader
  cases server.tenant <;> rfl

-- Only the slashes of the host are lost, and a path of the server's own begins with none.
theorem Server.toList_url {server : Server} {c : Char} {path : List Char} {text : String}
    (text_eq : text.toList = c :: path) (noSlash : c ≠ '/') : (server.url text).toList =
      Text.dropEndWhile (· == '/') server.host.toList ++ '/' :: 'v' :: '1' :: '/' :: text.toList := by
  rw [Server.url, String.toList_ofList, text_eq,
    List.dropWhile_cons_of_neg (by simpa using noSlash), List.append_assoc]
  rfl

theorem Server.not_mem_url {server : Server} {c x : Char} {path : List Char} {text : String}
    (text_eq : text.toList = c :: path) (noSlash : c ≠ '/') (notHost : x ∉ server.host.toList)
    (notPath : x ∉ "/v1/".toList ++ text.toList) : x ∉ (server.url text).toList := by
  rw [Server.toList_url text_eq noSlash]
  intro mem
  rcases List.mem_append.1 mem with mem | mem
  · exact notHost ((Text.dropEndWhile_prefix _ _).subset mem)
  · exact notPath mem

theorem Server.suffix_target_of_read {server : Server} {c : Char} {path : List Char}
    {text : String} {url : Http.Url} (text_eq : text.toList = c :: path) (noSlash : c ≠ '/')
    (uncut : ∀ x ∈ ['#', '?'], x ∉ server.host.toList ∧ x ∉ "/v1/".toList ++ text.toList)
    (h : Http.Url.read (server.url text) = some url) :
    "/v1/".toList ++ text.toList <:+ url.target.toList ∧ '?' ∉ url.target.toList := by
  have absent (x : Char) (mem : x ∈ ['#', '?']) : x ∉ (server.url text).toList :=
    Server.not_mem_url text_eq noSlash (uncut x mem).1 (uncut x mem).2
  constructor
  · apply Http.Url.suffix_target_of_read ?_ (Server.toList_url text_eq noSlash)
      (absent '#' (by simp)) h
    intro last
    exact absurd (Text.getLast?_dropEndWhile last) (by decide)
  · intro mem
    exact absent '?' (by simp) (Http.Url.mem_text_of_mem_target h mem (by decide))

theorem isLoginBody_appRoleBody (roleId : String) (secretId : Option Secret) :
    IsLoginBody (.appRole roleId secretId) (Session.appRoleBody roleId secretId) := by
  cases secretId with
  | none => exact .appRole roleId
  | some secretId => exact .appRoleSecret roleId secretId

theorem isLogin_of_request? {v : VaultSettings} {mount : String} {body : Json}
    {request : Http.Request} (mounted : v.credentials.mount? = some mount)
    (isBody : IsLoginBody v.credentials body)
    (sent : ((Server.ofSettings v).loginCall mount body).request? = some request) :
    IsLogin v request := by
  obtain ⟨read, method_eq, headers_eq, body_eq⟩ := Call.of_request? sent
  refine
    { method_eq
      mounted := ⟨mount, mounted, read, ?_⟩
      no_token := by rw [Http.Request.header?, headers_eq]; exact Server.header?_token _
      tenant_eq := by rw [Http.Request.header?, headers_eq]; exact Server.header?_tenant _
      body := ⟨body, body_eq, isBody⟩ }
  intro noSign noMark
  have notHost (x : Char) (mem : x ∈ ['#', '?']) : x ∉ v.host.toList := by
    simp only [List.mem_cons, List.not_mem_nil, or_false] at mem
    rcases mem with rfl | rfl
    · exact noSign
    · exact noMark
  rcases Credentials.eq_of_mount? mounted with rfl | rfl
  all_goals
    refine Server.suffix_target_of_read rfl (by decide) (fun x mem => ⟨notHost x mem, ?_⟩) read
    simp only [List.mem_cons, List.not_mem_nil, or_false] at mem
    rcases mem with rfl | rfl <;> decide

variable [Libraries]

structure Answer.Grants (reply : Http.Reply) (token : Secret) : Prop where
  success : reply.isSuccess
  content : ∃ bytes, reply.content? = some bytes ∧ Answer.token? bytes = some (some token)

def IsSessionToken (v : VaultSettings) (s : Scene) (logins : List Http.Request) (token : Secret) :
    Prop :=
  match v.credentials with
  | .token given => token = given
  | _ => ∃ earlier last, logins = earlier ++ [last] ∧
      ∃ reply, s.answerTo earlier.length = .ok reply ∧ Answer.Grants reply token

theorem Answer.grants_of_login {mount : String} {reply : Http.Reply} {token : Secret}
    (h : Answer.login mount reply = .ok token) : Answer.Grants reply token := by
  unfold Answer.login at h
  split at h
  · cases h
  · next success =>
    refine ⟨by simpa using success, ?_⟩
    unfold Answer.readWith at h
    cases decoded : reply.content?.bind Answer.token? with
    | none => simp [decoded] at h
    | some granted =>
      simp only [decoded] at h
      cases granted with
      | none => cases h
      | some granted =>
        dsimp only at h
        split at h
        · cases h
        · cases h
          exact Option.bind_eq_some_iff.1 decoded

theorem IsSessionToken.of_passage {v : VaultSettings} {s s' : Scene}
    {requests logins : List Http.Request} {entries : List Log.Entry} {token : Secret}
    (passage : Passage s s' requests entries) (h : IsSessionToken v s' logins token) :
    IsSessionToken v s (requests ++ logins) token := by
  unfold IsSessionToken at h ⊢
  split
  · next given =>
    simpa only [given] using h
  · next login =>
    split at h
    · next given => exact absurd given (login _)
    · obtain ⟨earlier, last, rfl, reply, answered, grants⟩ := h
      refine ⟨requests ++ earlier, last, (List.append_assoc _ _ _).symm, reply, ?_, grants⟩
      rw [List.length_append, ← passage.answerTo_eq, answered]

structure Attempted (v : VaultSettings) (s : Scene) (sent : Option Http.Request)
    (entries : List Log.Entry) (result : Except Failure Secret × Scene) : Prop where
  passage : Passage s result.2 sent.toList entries
  isLogin : ∀ request ∈ sent, IsLogin v request
  granted : ∀ token, result.1 = .ok token → IsSessionToken v s sent.toList token

theorem Attempted.nothing_sent {v : VaultSettings} {s : Scene} (failure : Failure) :
    Attempted v s none [] (.error failure, s) where
  passage := Passage.refl s
  isLogin request sent := by cases sent
  granted token ok := by cases ok

theorem run_login (server : Server) (mount : String) (body : Json) (s : Scene) :
    (server.api.login mount body : StateM Scene _).run s =
      (((Server.exchange (server.loginCall mount body) : StateM Scene _).run s).1 >>=
          Answer.login mount,
        ((Server.exchange (server.loginCall mount body) : StateM Scene _).run s).2) :=
  Scene.run_return (Server.exchange (server.loginCall mount body)) (· >>= Answer.login mount) s

theorem attempted_login {v : VaultSettings} {mount : String} {body : Json} (s : Scene)
    (mounted : v.credentials.mount? = some mount) (isBody : IsLoginBody v.credentials body) :
    Attempted v s (s.sent? ((Server.ofSettings v).loginCall mount body)) []
      (((Server.ofSettings v).api.login mount body : StateM Scene _).run s) := by
  let call := (Server.ofSettings v).loginCall mount body
  have passage := Server.passage_exchange call s
  have replied : ∀ reply, ((Server.exchange call : StateM Scene _).run s).1 = .ok reply →
      ∃ request, s.sent? call = some request ∧ s.answerTo 0 = .ok reply :=
    fun _ => Server.reply_of_exchange
  rw [run_login]
  generalize (Server.exchange call : StateM Scene _).run s = exchanged at passage replied ⊢
  refine ⟨passage, ?_, ?_⟩
  · intro request sent
    exact isLogin_of_request? mounted isBody (Scene.request?_of_sent? sent)
  · intro token ok
    cases result : exchanged.1 with
    | error failure =>
      rw [result] at ok
      cases ok
    | ok reply =>
      rw [result] at ok
      obtain ⟨request, sent, answered⟩ := replied reply result
      unfold IsSessionToken
      split
      · next given =>
        rw [given] at mounted
        cases mounted
      · exact ⟨[], request, by rw [sent]; rfl, reply, answered, Answer.grants_of_login ok⟩

theorem run_authenticate_file (server : Server) (appId path : String) (s : Scene) :
    (Session.authenticate server.api (.appIdFile appId path) : StateM Scene _).run s =
      match ((Session.userIdIn path : StateM Scene _).run s).1 with
      | .error failure => (.error failure, s)
      | .ok userId =>
        (server.api.login "app-id" (Session.appIdBody appId userId) : StateM Scene _).run s := by
  cases read : ((Session.userIdIn path : StateM Scene _).run s).1 with
  | error failure =>
    change ((match ((Session.userIdIn path : StateM Scene _).run s).1 with
      | .error failure => pure (.error failure)
      | .ok userId => server.api.login "app-id" (Session.appIdBody appId userId)) :
        StateM Scene _).run s = _
    rw [read]
    rfl
  | ok userId =>
    change ((match ((Session.userIdIn path : StateM Scene _).run s).1 with
      | .error failure => pure (.error failure)
      | .ok userId => server.api.login "app-id" (Session.appIdBody appId userId)) :
        StateM Scene _).run s = _
    rw [read]

theorem attempted_authenticate (v : VaultSettings) (s : Scene) : ∃ sent,
    Attempted v s sent []
      ((Session.authenticate (Server.ofSettings v).api v.credentials : StateM Scene _).run s) := by
  have mounted (mount : String) (c : Credentials) (same : v.credentials = c)
      (h : c.mount? = some mount) : v.credentials.mount? = some mount := same ▸ h
  cases credentials : v.credentials with
  | token given =>
    refine ⟨none, Passage.refl s, fun request sent => (Option.not_mem_none request sent).elim, ?_⟩
    intro token ok
    cases ok
    rw [IsSessionToken, credentials]
  | appId appId userId =>
    exact ⟨_, attempted_login s (mounted "app-id" _ credentials rfl)
      (credentials ▸ .appId appId userId)⟩
  | appIdFile appId path =>
    rw [run_authenticate_file]
    split
    · next failure _ => exact ⟨none, Attempted.nothing_sent failure⟩
    · next userId _ =>
      exact ⟨_, attempted_login s (mounted "app-id" _ credentials rfl)
        (credentials ▸ .appIdFile appId path userId.expose)⟩
  | appRole roleId secretId =>
    exact ⟨_, attempted_login s (mounted "approle" _ credentials rfl)
      (credentials ▸ isLoginBody_appRoleBody roleId secretId)⟩

end Vault

end SecretResolver
