import SecretResolver.Proofs.Resolver.Interchange

set_option autoImplicit false

namespace SecretResolver

namespace Http.Url

theorem target_of_read {scheme authority path : List Char} {text : String} {url : Url}
    (isScheme : IsScheme scheme) (apart : ∀ c ∈ authority, endsAuthority c = false)
    (text_eq : text.toList = scheme ++ (authority ++ '/' :: path)) (h : read text = some url) :
    url.target = String.ofList ('/' :: path.takeWhile (· != '#')) := by
  obtain ⟨secure, split⟩ := splitScheme_append isScheme (authority ++ '/' :: path)
  obtain ⟨-, dropped⟩ := takeWhile_authority apart path
  simp only [read, text_eq, split, Option.bind_eq_bind, Option.bind_some, dropped] at h
  split at h
  · cases h
    rfl
  · cases h

end Http.Url

namespace Vault

namespace Server

structure RootedAt (server : Server) (root : List Char) : Prop where
  host : ∃ scheme authority, server.host.toList = scheme ++ (authority ++ root) ∧
    Http.Url.IsScheme scheme ∧ authority ≠ [] ∧
      ∀ c ∈ authority, Http.Url.endsAuthority c = false
  path : root = [] ∨ root.head? = some '/'
  plain : '?' ∉ root ∧ '#' ∉ root

def bare (location : String) : List Char :=
  location.toList.dropWhile (· == '/')

def below (root path : List Char) : String :=
  String.ofList (Text.dropEndWhile (· == '/') root ++ "/v1/".toList ++ path)

theorem below_injective (root : List Char) : Function.Injective (below root) :=
  fun _ _ same => List.append_cancel_left (String.ofList_injective same)

theorem number_sign_mem_bare {location : String} :
    '#' ∈ bare location ↔ '#' ∈ location.toList := by
  constructor
  · exact fun mem => (List.dropWhile_suffix _).subset mem
  · intro mem
    rw [← List.takeWhile_append_dropWhile (p := (· == '/')) (l := location.toList)] at mem
    rcases List.mem_append.1 mem with slash | mem
    · have only := List.all_eq_true.1 List.all_takeWhile _ slash
      exact absurd only (by decide)
    · exact mem

theorem takeWhile_eq_self_iff_notMem {location : String} :
    (bare location).takeWhile (· != '#') = bare location ↔ '#' ∉ location.toList := by
  rw [← number_sign_mem_bare, List.takeWhile_eq_self_iff]
  constructor
  · intro all mem
    exact absurd (all _ mem) (by decide)
  · intro uncut c mem
    rw [bne_iff_ne]
    rintro rfl
    exact uncut mem

-- Below the root and the version there is one path, which begins with a slash of its own.
theorem RootedAt.exists_path {server : Server} {root : List Char} (rooted : server.RootedAt root) :
    ∃ path, Text.dropEndWhile (· == '/') root ++ "/v1/".toList = '/' :: path ∧ '#' ∉ path := by
  have kept : Text.dropEndWhile (· == '/') root <+: root :=
    Text.dropEndWhile_prefix _ root
  have uncut : '#' ∉ Text.dropEndWhile (· == '/') root := fun mem =>
    rooted.plain.2 (kept.subset mem)
  cases start : Text.dropEndWhile (· == '/') root with
  | nil => exact ⟨"v1/".toList, rfl, by decide⟩
  | cons c cs =>
    obtain ⟨rest, root_eq⟩ := kept
    rw [start] at root_eq uncut
    obtain rfl : c = '/' := by
      rcases rooted.path with empty | first
      · rw [empty] at root_eq
        cases root_eq
      · rw [← root_eq] at first
        exact Option.some.inj first
    refine ⟨cs ++ "/v1/".toList, rfl, ?_⟩
    intro mem
    rcases List.mem_append.1 mem with mem | mem
    · exact uncut (List.mem_cons_of_mem _ mem)
    · exact absurd mem (by decide)

theorem target_of_read {server : Server} {root : List Char} (rooted : server.RootedAt root)
    {location : String} {url : Http.Url} (h : Http.Url.read (server.url location) = some url) :
    url.target = below root ((bare location).takeWhile (· != '#')) := by
  obtain ⟨scheme, authority, host_eq, isScheme, some_char, apart⟩ := rooted.host
  obtain ⟨path, path_eq, uncut⟩ := rooted.exists_path
  have url_eq : (server.url location).toList =
      scheme ++ (authority ++ '/' :: (path ++ bare location)) := by
    rw [Server.url, String.toList_ofList, host_eq, dropEndWhile_of_authority scheme some_char apart,
      ← List.cons_append, ← path_eq]
    simp [bare]
  have passes : ∀ c ∈ path, (c != '#') = true := by
    intro c mem
    rw [bne_iff_ne]
    rintro rfl
    exact uncut mem
  rw [Http.Url.target_of_read isScheme apart url_eq h, below, path_eq,
    List.takeWhile_append_of_pos passes, List.cons_append]

end Server

end Vault

inductive Answer.Gives : Answer → ByteArray → Prop where
  | bytes (value : ByteArray) : Gives (.bytes (.ok value)) value
  | text (value : String) : Gives (.text (.ok value)) value.toUTF8

theorem Resolver.toUTF8_of_textOf {kind : StoreKind} {id text : String} {bytes : ByteArray}
    (read : textOf kind id bytes = .ok text) : text.toUTF8 = bytes := by
  cases decoded : String.fromUTF8? bytes with
  | none =>
    rw [textOf, decoded] at read
    cases read
  | some text' =>
    rw [textOf, decoded] at read
    cases read
    exact toUTF8_of_fromUTF8? decoded

theorem Call.found_of_gives {kind : StoreKind} {call : Call} {found : Except Failure ByteArray}
    {value : ByteArray} (gives : (call.answer kind found).Gives value) : found = .ok value := by
  cases call with
  | get id | getReference reference =>
    cases gives
    rfl
  | getString id =>
    generalize answered : (Call.getString id).answer kind found = answer at gives
    cases gives with
    | bytes => cases answered
    | text text =>
      cases found with
      | error failure => cases answered
      | ok bytes => rw [Resolver.toUTF8_of_textOf (Answer.text.inj answered)]

namespace Vault

section

variable [Libraries]

structure AsksFor (v : VaultSettings) (root : List Char) (location : String) (s : Scene)
    (sent : Option Http.Request) (ended : SecretResolver.Answer × Scene) : Prop where
  requests_eq : ended.2.requests = s.requests ++ sent.toList
  target_eq : ∀ request ∈ sent,
    request.url.target = Server.below root ((Server.bare location).takeWhile (· != '#'))
  whole_iff : ∀ request ∈ sent,
    request.url.target = Server.below root (Server.bare location) ↔ '#' ∉ location.toList
  gives : ∀ value, ended.1.Gives value → ∃ request ∈ sent, ∃ reply data,
    s.answerTo 0 = .ok reply ∧ Answer.read location reply = .ok data ∧
      Payload.value data v.valueField location = .ok value

section

variable {v : VaultSettings} {token : Secret} {mapping : Template} {root : List Char}

theorem reply_of_fetch {location : String} {s : Scene} {value : ByteArray}
    (found : (((resolver mapping (opened v token)).fetch location).run s).1.1 = .ok value) :
    ∃ request reply data, s.sent? ((Server.ofSettings v).readCall location token) = some request ∧
      s.answerTo 0 = .ok reply ∧ Answer.read location reply = .ok data ∧
        Payload.value data v.valueField location = .ok value := by
  rw [run_fetch] at found
  obtain ⟨data, read, found⟩ := exists_of_bind_ok found
  simp only [opened, run_read] at read
  obtain ⟨reply, exchanged, read⟩ := exists_of_bind_ok read
  obtain ⟨request, sent, answered⟩ := Server.reply_of_exchange exchanged
  exact ⟨request, reply, data, sent, answered, read, found⟩

theorem asksFor_answer (mapping : Template) (token : Secret)
    (rooted : (Server.ofSettings v).RootedAt root) (call : Call) (s : Scene) :
    let ended := ((resolver mapping (opened v token)).answer call).run s
    ended.1.2 = resolver mapping (opened v token) ∧
      AsksFor v root (call.location mapping .vault) s (readFor mapping v token s call)
        (ended.1.1, ended.2) := by
  intro ended
  have api_eq : (opened v token).api = (Server.ofSettings v).api := rfl
  obtain ⟨answer, s', run_eq, passage⟩ := passage_answer mapping api_eq call s
  have target_eq : ∀ request ∈ readFor mapping v token s call, request.url.target =
      Server.below root ((Server.bare (call.location mapping .vault)).takeWhile (· != '#')) :=
    fun request sent => Server.target_of_read rooted (isRead_readFor call request sent).url_eq
  refine ⟨congrArg (·.1.2) run_eq, ⟨?_, target_eq, ?_, ?_⟩⟩
  · exact (congrArg (·.2.requests) run_eq).trans passage.requests_eq
  · intro request sent
    rw [target_eq request sent, (Server.below_injective root).eq_iff]
    exact Server.takeWhile_eq_self_iff_notMem
  · intro value gives
    have gives : (((resolver mapping (opened v token)).answer call).run s).1.1.Gives value := gives
    rw [answer_eq] at gives
    have found := Call.found_of_gives gives
    obtain ⟨request, reply, data, sent, answered, read, given⟩ := reply_of_fetch found
    exact ⟨request, sent, reply, data, answered, read, given⟩

end

theorem location_sent_up_to_number_sign (mapping : Template) (v : VaultSettings) (root : List Char)
    (act : StateM Scene (Except Failure (Resolver (StateM Scene)))) (r : Resolver (StateM Scene))
    (s₀ s₁ : Scene) (rooted : (Server.ofSettings v).RootedAt root)
    (makes : Resolver.Makes { mapping, store := .vault v } act) (made : act.run s₀ = (.ok r, s₁)) :
    (∀ call s, ((r.answer call).run s).1.2 = r ∧ ∃ sent,
      AsksFor v root (call.location mapping .vault) s sent
        (((r.answer call).run s).1.1, ((r.answer call).run s).2)) ∧
      ∀ call call' s s' request request',
        ((r.answer call).run s).2.requests = s.requests ++ [request] →
        ((r.answer call').run s').2.requests = s'.requests ++ [request'] →
        '#' ∉ (call.location mapping .vault).toList →
        '#' ∉ (call'.location mapping .vault).toList →
        (request.url.target = request'.url.target ↔
          Server.bare (call.location mapping .vault) =
            Server.bare (call'.location mapping .vault)) := by
  rw [makes.eq_ofSettings] at made
  obtain ⟨token, rfl⟩ := exists_eq_of_made ⟨s₀, made⟩
  have each (call : Call) (s : Scene) := asksFor_answer mapping token rooted call s
  have whole (call : Call) (s : Scene) (request : Http.Request)
      (arrived : (((resolver mapping (opened v token)).answer call).run s).2.requests =
        s.requests ++ [request])
      (uncut : '#' ∉ (call.location mapping .vault).toList) :
      request.url.target = Server.below root (Server.bare (call.location mapping .vault)) := by
    obtain ⟨-, asks⟩ := each call s
    have sent := List.append_cancel_left (asks.requests_eq.symm.trans arrived)
    exact (asks.whole_iff request (Option.mem_toList.1 (by simp [sent]))).2 uncut
  refine ⟨fun call s => ⟨(each call s).1, _, (each call s).2⟩, ?_⟩
  intro call call' s s' request request' arrived arrived' uncut uncut'
  rw [whole call s request arrived uncut, whole call' s' request' arrived' uncut',
    (Server.below_injective root).eq_iff]

end

def oddVault : VaultSettings :=
  { plainVault with host := "http://vault.test/base//" }

def oddCall : Call :=
  .get "//é?a=//../%20"

theorem made_of_token [Libraries] {v : VaultSettings} {token : Secret}
    (given : v.credentials = .token token)
    (valid : Settings.check { mapping := .byId, store := .vault v } = .ok ()) (s : Scene) :
    ((Resolver.ofSettings { mapping := .byId, store := .vault v } : StateM Scene _).run s).1 =
      .ok (resolver .byId (opened v token)) := by
  have setup := Resolver.isSetup_ofSettings (m := StateM Scene) valid
  simp only [Resolver.IsSetup, given] at setup
  rw [setup]
  rfl

theorem location_sent_up_to_number_sign_odd :
    let v := oddVault
    let root := "/base//".toList
    let settings := { mapping := .byId, store := .vault v }
    let r := resolver .byId (opened v ⟨"token"⟩)
    let s : Scene := { replies := some [] }
    (Server.ofSettings v).RootedAt root ∧
      Resolver.Makes settings (Resolver.ofSettings settings) ∧
      ((Resolver.ofSettings settings : StateM Scene _).run {}).1 = .ok r ∧
      (readFor .byId v ⟨"token"⟩ s oddCall).map (·.url.target) = some "/base/v1/é?a=//../%20" ∧
      ((r.answer oddCall).run s).1.2 = r ∧ ∃ sent,
        AsksFor v root (oddCall.location .byId .vault) s sent
          (((r.answer oddCall).run s).1.1, ((r.answer oddCall).run s).2) := by
  intro v root settings r s
  have rooted : (Server.ofSettings v).RootedAt root :=
    { host := ⟨"http://".toList, "vault.test".toList, by decide, .inl (by decide),
        Http.Authority.apart_of_isWellFormed (by decide)⟩
      path := by decide
      plain := by decide }
  have made : ((Resolver.ofSettings settings : StateM Scene _).run {}).1 = .ok r :=
    made_of_token rfl (by decide) {}
  have asked := (location_sent_up_to_number_sign .byId v root _ r {} _ rooted .ofSettings
    (Prod.ext made rfl)).1
  exact ⟨rooted, .ofSettings, made, by decide +kernel, asked oddCall s⟩

theorem location_cut_at_number_sign :
    let v := plainVault
    let settings := { mapping := .byId, store := .vault v }
    let r := resolver .byId (opened v ⟨"token"⟩)
    let s : Scene := { replies := some [.ok (serveDeep 0 "/v1/NAME")] }
    let ended := (r.answer (.get "NAME#OTHER")).run s
    (Server.ofSettings v).RootedAt ['/'] ∧
      Resolver.Makes settings (Resolver.ofSettings settings) ∧
      ((Resolver.ofSettings settings : StateM Scene _).run {}).1 = .ok r ∧
      Server.below ['/'] (Server.bare (Template.byId.locate "NAME#OTHER")) = "/v1/NAME#OTHER" ∧
      ended.2.requests.map (·.url.target) = ["/v1/NAME"] ∧
      ended.1.1 = .bytes (.ok "é".toUTF8) := by
  intro v settings r s ended
  have rooted : (Server.ofSettings v).RootedAt ['/'] :=
    { host := ⟨"http://".toList, "vault.test".toList, by decide, .inl (by decide),
        Http.Authority.apart_of_isWellFormed (by decide)⟩
      path := by decide
      plain := by decide }
  have arrived : (readFor .byId v ⟨"token"⟩ s (.get "NAME#OTHER")).map (·.url.target) =
      some "/v1/NAME" := by decide +kernel
  obtain ⟨request, sent, target_eq⟩ := Option.map_eq_some_iff.1 arrived
  obtain ⟨-, asks⟩ := asksFor_answer .byId ⟨"token"⟩ rooted (.get "NAME#OTHER") s
  refine ⟨rooted, .ofSettings, made_of_token rfl (by decide) {}, by decide +kernel, ?_, ?_⟩
  · rw [asks.requests_eq, sent]
    simp [s, target_eq]
  · have small : (String.ofList (deepBody 0)).utf8ByteSize < Libraries.bodyLimit := by
      decide +kernel
    have given : Gives "value" "é" (some (Json.nest 0)) (serveDeep 0 "/v1/NAME") :=
      (serveDeep_serves small).found "NAME" "é" rfl
    obtain ⟨payload, read, isPayload⟩ := read_of_gives given
      (by simp [Json.nest, Json.depth, Json.itemsDepth]) "NAME#OTHER"
    have located : (Call.get "NAME#OTHER").location .byId .vault = "NAME#OTHER" := locate_byId _
    have replied : (s.answerTo 0).toOption = some (serveDeep 0 "/v1/NAME") := rfl
    have answered := answer_of_reply (Option.bind_eq_some_iff.2
      ⟨request, Scene.request?_of_sent? sent, replied⟩) given.stands
    have found : (Except.ok payload).bind (fun data =>
        Payload.value data v.valueField "NAME#OTHER") = .ok "é".toUTF8 :=
      value_of_isPayload isPayload _
    rw [located, read, found] at answered
    dsimp only [ended, r]
    rw [answered]
    rfl

end Vault

end SecretResolver
