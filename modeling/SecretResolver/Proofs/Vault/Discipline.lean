import Mathlib.Data.List.Forall2
import SecretResolver.Proofs.Resolver.Calls
import SecretResolver.Proofs.Resolver.Setup
import SecretResolver.Proofs.Template.Compile
import SecretResolver.Proofs.Vault.Connect

set_option autoImplicit false

namespace SecretResolver.Vault

open Scene (Passage)

structure IsRead (v : VaultSettings) (token : Secret) (location : String)
    (request : Http.Request) : Prop where
  method_eq : request.method = .get
  no_body : request.body = none
  url_eq : Http.Url.read ((Server.ofSettings v).url location) = some request.url
  token_eq : request.header? "X-Vault-Token" = some token.expose
  tenant_eq : request.header? "X-Vault-Namespace" = v.tenant

theorem isRead_of_request? {v : VaultSettings} {token : Secret} {location : String}
    {request : Http.Request}
    (sent : ((Server.ofSettings v).readCall location token).request? = some request) :
    IsRead v token location request := by
  obtain ⟨url_eq, method_eq, headers_eq, body_eq⟩ := Call.of_request? sent
  refine { method_eq, no_body := body_eq, url_eq, token_eq := ?_, tenant_eq := ?_ }
  · rw [Http.Request.header?, headers_eq]
    rfl
  · rw [Http.Request.header?, headers_eq]
    exact Server.header?_tenant (Server.ofSettings v)

theorem authentications_entry (call : Call) (mapping : Template) (kind : StoreKind) :
    authentications [call.entry mapping kind] = 0 := by
  cases call with
  | get id => rfl
  | getString id => rfl
  | getReference reference =>
    cases given : reference.location? kind <;> simp only [Call.entry, given] <;> rfl

section

variable {v : VaultSettings} {session : Session (StateM Scene)}

def resolver (mapping : Template) (session : Session (StateM Scene)) :
    Resolver (StateM Scene) where
  mapping
  store := .vault session

def readFor (mapping : Template) (v : VaultSettings) (token : Secret) (s : Scene) (call : Call) :
    Option Http.Request :=
  s.sent? ((Server.ofSettings v).readCall (call.location mapping .vault) token)

theorem isRead_readFor {mapping : Template} {token : Secret} {s : Scene} (call : Call) :
    ∀ request ∈ readFor mapping v token s call,
      IsRead v token (call.location mapping .vault) request := by
  intro request sent
  exact isRead_of_request? (Scene.request?_of_sent? sent)

theorem readFor_of_passage {mapping : Template} {token : Secret} {s s' : Scene}
    {requests : List Http.Request} {entries : List Log.Entry}
    (passage : Passage s s' requests entries) :
    readFor mapping v token s' = readFor mapping v token s := by
  funext call
  rw [readFor, readFor, Scene.sent?, Scene.sent?, passage.isServed_eq]

variable [Libraries]

theorem run_fetch (mapping : Template) (session : Session (StateM Scene)) (location : String)
    (s : Scene) : ((resolver mapping session).fetch location).run s =
      ((((session.api.read location session.token).run s).1.bind fun data =>
          Payload.value data session.valueField location, resolver mapping session),
        ((session.api.read location session.token).run s).2) :=
  rfl

theorem run_read (server : Server) (path : String) (token : Secret) (s : Scene) :
    (server.api.read path token : StateM Scene _).run s =
      (((Server.exchange (server.readCall path token) : StateM Scene _).run s).1 >>=
          Answer.read path,
        ((Server.exchange (server.readCall path token) : StateM Scene _).run s).2) :=
  Scene.run_return (Server.exchange (server.readCall path token)) (· >>= Answer.read path) s

theorem passage_fetch (mapping : Template) (opened : session.api = (Server.ofSettings v).api)
    (location : String) (s : Scene) :
    Passage s (((resolver mapping session).fetch location).run s).2
      (s.sent? ((Server.ofSettings v).readCall location session.token)).toList [] := by
  have passage := Server.passage_exchange ((Server.ofSettings v).readCall location session.token) s
  rw [run_fetch, opened, run_read]
  generalize (Server.exchange ((Server.ofSettings v).readCall location session.token) :
    StateM Scene _).run s = exchanged at passage ⊢
  exact passage

theorem passage_answer (mapping : Template) (opened : session.api = (Server.ofSettings v).api)
    (call : Call) (s : Scene) : ∃ answer s',
      ((resolver mapping session).answer call).run s =
          ((answer, resolver mapping session), s') ∧
        Passage s s' (readFor mapping v session.token s call).toList
          [call.entry mapping .vault] := by
  obtain ⟨answer, run_eq⟩ := (resolver mapping session).run_answer s call
  refine ⟨answer, _, run_eq, ?_⟩
  exact (Passage.record s (call.entry mapping .vault)).trans
    (passage_fetch mapping opened (call.location mapping .vault) _)

theorem passage_answers (mapping : Template) (opened : session.api = (Server.ofSettings v).api)
    (calls : List Call) (s : Scene) : ∃ entries, authentications entries = 0 ∧
      Passage s (((resolver mapping session).answers calls).run s).2
        (calls.filterMap (readFor mapping v session.token s)) entries := by
  induction calls generalizing s with
  | nil => exact ⟨[], rfl, Passage.refl s⟩
  | cons call calls ih =>
    obtain ⟨answer, s', run_eq, first⟩ := passage_answer mapping opened call s
    obtain ⟨entries, none_new, rest⟩ := ih s'
    have same : readFor mapping v session.token s' = readFor mapping v session.token s :=
      readFor_of_passage first
    refine ⟨[call.entry mapping .vault] ++ entries, ?_, ?_⟩
    · rw [authentications_append, authentications_entry, none_new]
    · rw [Resolver.answers_cons, run_eq, List.filterMap_cons]
      rw [same] at rest
      have whole := first.trans rest
      cases sent : readFor mapping v session.token s call <;> rw [sent] at whole <;> exact whole

end

theorem run_openStore [Libraries] (v : VaultSettings) (s : Scene) :
    (Resolver.openStore (.vault v) : StateM Scene _).run s =
      (((Session.connect v (Server.ofSettings v).api : StateM Scene _).run s).1.map .vault,
        ((Session.connect v (Server.ofSettings v).api : StateM Scene _).run s).2) :=
  Scene.run_return (Session.connect v (Server.ofSettings v).api) (Except.map Store.vault) s

structure Disciplined [Libraries] (mapping : Template) (v : VaultSettings) (calls : List Call)
    (s : Scene) (logins reads : List (Option Http.Request)) (entries : List Log.Entry)
    (result : Except Failure (List Answer) × Scene) : Prop where
  requests_eq : result.2.requests = s.requests ++ logins.filterMap id ++ reads.filterMap id
  log_eq : result.2.log = s.log ++ entries
  authentications_eq : authentications entries = logins.length
  within : logins.length ≤ v.retry.attemptLimit
  isLogin : ∀ request ∈ logins.filterMap id, IsLogin v request
  no_reads : ∀ failure, result.1 = .error failure → reads = []
  isRead : ∀ answers, result.1 = .ok answers → ∃ token,
    IsSessionToken v s (logins.filterMap id) token ∧
      reads = calls.map (readFor mapping v token s) ∧
      List.Forall₂ (fun call sent => ∀ request ∈ sent,
        IsRead v token (call.location mapping .vault) request) calls reads

section

variable [Libraries]

theorem disciplined_of_refused (mapping : Template) {v : VaultSettings} (calls : List Call)
    {s s' : Scene} {sent : List (Option Http.Request)} {entries : List Log.Entry}
    {failure : Failure} (refused : Connected v s sent entries (.error failure, s')) :
    Disciplined mapping v calls s sent [] entries (.error failure, s') where
  requests_eq := refused.attempts.passage.requests_eq.trans (List.append_nil _).symm
  log_eq := refused.attempts.passage.log_eq
  authentications_eq := refused.attempts.authentications_eq
  within := refused.within
  isLogin := refused.attempts.isLogin
  no_reads _ _ := rfl
  isRead answers ok := by cases ok

theorem disciplined_of_connected {mapping : Template} {v : VaultSettings} (calls : List Call)
    {s s' : Scene} {sent : List (Option Http.Request)} {entries : List Log.Entry}
    {session : Session (StateM Scene)} (connected : Connected v s sent entries (.ok session, s')) :
    ∃ entries',
      Disciplined mapping v calls s sent (calls.map (readFor mapping v session.token s))
        (entries ++ entries')
        (.ok (((resolver mapping session).answers calls).run s').1.1,
          (((resolver mapping session).answers calls).run s').2) := by
  obtain ⟨opened, -, isToken⟩ := connected.opened session rfl
  obtain ⟨entries', none_new, passage⟩ := passage_answers mapping opened calls s'
  rw [readFor_of_passage connected.attempts.passage] at passage
  have whole := connected.attempts.passage.trans passage
  refine ⟨entries', ?_, whole.log_eq, ?_, connected.within, connected.attempts.isLogin, ?_, ?_⟩
  · rw [whole.requests_eq, List.filterMap_map, List.append_assoc]
    rfl
  · rw [authentications_append, none_new, connected.attempts.authentications_eq]
    rfl
  · intro failure failed
    cases failed
  · intro answers _
    refine ⟨session.token, isToken, rfl, ?_⟩
    rw [List.forall₂_map_right_iff, List.forall₂_same]
    exact fun call _ => isRead_readFor call

theorem logins_then_reads (mapping : Template) (v : VaultSettings) (calls : List Call)
    (s : Scene) : ∃ logins reads entries, Disciplined mapping v calls s logins reads entries
      ((Resolver.lifetime { mapping, store := .vault v } calls : StateM Scene _).run s) := by
  have run_eq := Resolver.run_ofSettings { mapping, store := .vault v } s
  cases valid : Settings.check { mapping, store := .vault v } with
  | error failure =>
    rw [valid] at run_eq
    have refused : Connected v s [] [] (.error failure, s) :=
      ⟨⟨Passage.refl s, rfl, by simp⟩, Nat.zero_le _, fun _ ok => by cases ok⟩
    rw [Resolver.run_lifetime, run_eq]
    exact ⟨_, _, _, disciplined_of_refused mapping calls refused⟩
  | ok =>
    let entry := Resolver.creating { mapping, store := .vault v }
    obtain ⟨sent, entries, connected⟩ := exists_connected v (s.record entry)
    simp only [valid, run_openStore] at run_eq
    generalize (Session.connect v (Server.ofSettings v).api : StateM Scene _).run
      (s.record entry) = result at connected run_eq
    obtain ⟨made, s'⟩ := result
    have connected := connected.of_record rfl
    rw [Resolver.run_lifetime, run_eq]
    cases made with
    | error failure => exact ⟨_, _, _, disciplined_of_refused mapping calls connected⟩
    | ok session =>
      obtain ⟨entries', disciplined⟩ := disciplined_of_connected calls connected
      exact ⟨_, _, _, disciplined⟩

end

-- The number sign ends what is sent of every address on this host.
def signedHost : VaultSettings where
  host := "http://vault.test#"
  credentials := .appId "app" ⟨"user"⟩

theorem login_target_of_signed_host :
    Settings.check { mapping := .byId, store := .vault signedHost } = .ok () ∧
      ¬ ∀ request ∈ ((Resolver.lifetime { mapping := .byId, store := .vault signedHost } [] :
          StateM Scene _).run { replies := some [] }).2.requests,
        "auth/app-id/login".toList <:+ request.url.target.toList := by
  refine ⟨by decide, ?_⟩
  intro mounted
  have sent : ((Resolver.lifetime { mapping := .byId, store := .vault signedHost } [] :
      StateM Scene _).run { replies := some [] }).2.requests.map (·.url.target) = ["/"] := by
    decide +kernel
  obtain ⟨request, mem, target_eq⟩ :=
    List.exists_of_mem_map (sent.symm ▸ List.mem_singleton_self "/")
  have ends := mounted request mem
  rw [target_eq] at ends
  exact absurd ends (by decide)

end SecretResolver.Vault
