import SecretResolver.Proofs.Scene.Logging
import SecretResolver.Proofs.Secrecy.Lifetime
import SecretResolver.Proofs.Template.Joining
import SecretResolver.Proofs.Vault.Unwrapping
import SecretResolver.Proofs.Vault.Verbatim

set_option autoImplicit false

namespace SecretResolver

def slashes (n : Nat) : String :=
  String.ofList (List.replicate n '/')

theorem toList_slashes (n : Nat) : (slashes n).toList = List.replicate n '/' :=
  String.toList_ofList

theorem slashes_append_slashes (m n : Nat) : slashes m ++ slashes n = slashes (m + n) := by
  apply String.toList_injective
  rw [String.toList_append, toList_slashes, toList_slashes, toList_slashes,
    List.replicate_append_replicate]

theorem beq_slash_of_mem {n : Nat} : ∀ c ∈ (slashes n).toList, (c == '/') = true := by
  intro c mem
  rw [toList_slashes] at mem
  exact beq_iff_eq.2 (List.eq_of_mem_replicate mem)

theorem eq_slashes {cs : List Char} (all : ∀ c ∈ cs, (c == '/') = true) :
    cs = (slashes cs.length).toList := by
  rw [toList_slashes]
  exact List.eq_replicate_of_mem fun c mem => beq_iff_eq.1 (all c mem)

namespace Vault.Server

structure Seam (host path front back : String) : Prop where
  host_eq : ∃ k, host = front ++ slashes k
  path_eq : ∃ m, path = slashes m ++ back
  front_bare : front.toList.getLast? ≠ some '/'
  back_bare : back.toList.head? ≠ some '/'

theorem exists_seam (host path : String) : ∃ front back, Seam host path front back := by
  refine ⟨String.ofList (Text.dropEndWhile (· == '/') host.toList),
    String.ofList (path.toList.dropWhile (· == '/')), ?_, ?_, ?_, ?_⟩
  · refine ⟨(host.toList.rtakeWhile (· == '/')).length, String.toList_injective ?_⟩
    rw [String.toList_append, String.toList_ofList,
      ← eq_slashes fun _ => List.mem_rtakeWhile_imp (p := (· == '/'))]
    exact List.rdropWhile_append_rtakeWhile.symm
  · refine ⟨(path.toList.takeWhile (· == '/')).length, String.toList_injective ?_⟩
    rw [String.toList_append, String.toList_ofList,
      ← eq_slashes (List.all_eq_true.1 List.all_takeWhile), List.takeWhile_append_dropWhile]
  · rw [String.toList_ofList]
    intro last
    exact absurd (Text.getLast?_dropEndWhile last) (by decide)
  · rw [String.toList_ofList]
    intro first
    have kept := List.head?_dropWhile_not (· == '/') path.toList
    rw [first] at kept
    exact absurd kept (by decide)

section

variable {host path front back : String}

theorem Seam.append_slashes (seam : Seam host path front back) (k : Nat) :
    Seam (host ++ slashes k) path front back := by
  obtain ⟨⟨k', rfl⟩, path_eq, front_bare, back_bare⟩ := seam
  refine ⟨⟨k' + k, ?_⟩, path_eq, front_bare, back_bare⟩
  rw [String.append_assoc, slashes_append_slashes]

theorem Seam.slashes_append (seam : Seam host path front back) (m : Nat) :
    Seam host (slashes m ++ path) front back := by
  obtain ⟨host_eq, ⟨m', rfl⟩, front_bare, back_bare⟩ := seam
  refine ⟨host_eq, ⟨m + m', ?_⟩, front_bare, back_bare⟩
  rw [← String.append_assoc, slashes_append_slashes]

theorem Seam.url_eq {server : Server} (seam : Seam server.host path front back) :
    server.url path = front ++ "/v1/" ++ back := by
  obtain ⟨⟨k, host_eq⟩, ⟨m, rfl⟩, front_bare, back_bare⟩ := seam
  have front_kept : Text.dropEndWhile (· == '/') front.toList = front.toList := by
    apply Text.dropEndWhile_eq_self
    intro c last
    rw [beq_eq_false_iff_ne]
    rintro rfl
    exact front_bare last
  have back_kept : back.toList.dropWhile (· == '/') = back.toList := by
    apply Text.dropWhile_eq_self
    intro c first
    rw [beq_eq_false_iff_ne]
    rintro rfl
    exact back_bare first
  apply String.toList_injective
  rw [url, String.toList_ofList, host_eq, String.toList_append, String.toList_append,
    Text.dropEndWhile_append_of_forall beq_slash_of_mem, front_kept,
    List.dropWhile_append_of_pos beq_slash_of_mem, back_kept, String.toList_append,
    String.toList_append]

theorem url_append_slashes (server : Server) (k : Nat) :
    ({ server with host := server.host ++ slashes k } : Server).url = server.url := by
  funext path
  obtain ⟨front, back, seam⟩ := exists_seam server.host path
  have longer : Seam ({ server with host := server.host ++ slashes k } : Server).host path front
      back := seam.append_slashes k
  rw [longer.url_eq, seam.url_eq]

theorem url_slashes_append (server : Server) (m : Nat) (path : String) :
    server.url (slashes m ++ path) = server.url path := by
  obtain ⟨front, back, seam⟩ := exists_seam server.host path
  rw [(seam.slashes_append m).url_eq, seam.url_eq]

end

theorem api_congr {m : Type → Type} [Monad m] [Host m] [Libraries] {server server' : Server}
    (url_eq : server.url = server'.url) (tenant_eq : server.tenant = server'.tenant) :
    (server.api : Api m) = server'.api := by
  simp only [api, loginCall, readCall, tenantHeader, url_eq, tenant_eq]

theorem api_add_slashes {m : Type → Type} [Monad m] [Host m] [Libraries] (server : Server)
    (k : Nat) :
    (({ server with host := server.host ++ slashes k } : Server).api : Api m) = server.api :=
  api_congr (server.url_append_slashes k) rfl

end Vault.Server

namespace Template

def SlashesApart (mapping mapping' : Template) : Prop :=
  ∃ source m m', mapping.source = slashes m ++ source ∧ mapping'.source = slashes m' ++ source

theorem SlashesApart.exists_locate_eq {mapping mapping' : Template}
    (apart : mapping.SlashesApart mapping') (id : String) : ∃ rest m m',
      mapping.locate id = slashes m ++ rest ∧ mapping'.locate id = slashes m' ++ rest := by
  obtain ⟨source, m, m', source_eq, source_eq'⟩ := apart
  have plain (n : Nat) : '{' ∉ (slashes n).toList := fun mem =>
    absurd (beq_slash_of_mem _ mem) (by decide)
  have text_eq : mapping.source.toList = (slashes m).toList ++ source.toList := by
    rw [source_eq, String.toList_append]
  have text_eq' : mapping'.source.toList = (slashes m').toList ++ source.toList := by
    rw [source_eq', String.toList_append]
  obtain ⟨pieces, scanned, located⟩ := exists_pieces_of_plain_start (plain m) text_eq
  obtain ⟨pieces', scanned', located'⟩ := exists_pieces_of_plain_start (plain m') text_eq'
  cases scanned.symm.trans scanned'
  refine ⟨String.ofList (fill id.toList pieces), m, m', String.toList_injective ?_,
    String.toList_injective ?_⟩
  · rw [located, String.toList_append, String.toList_ofList]
  · rw [located', String.toList_append, String.toList_ofList]

end Template

namespace Scene

def SameButLog (s s' : Scene) : Prop :=
  s.unlogged = s'.unlogged

theorem SameButLog.requests_eq {s s' : Scene} (same : SameButLog s s') :
    s.requests = s'.requests := by
  have kept : s.unlogged.requests = s'.unlogged.requests := by rw [same]
  exact kept

theorem unlogged_sleep (s : Scene) : s.sleep.unlogged = s.unlogged.sleep := by
  obtain ⟨_, _, delays, _, _, _⟩ := s
  cases delays <;> rfl

theorem SameButLog.blind : Blind SameButLog where
  record same _ := same
  sleep {s s'} same := by
    rw [SameButLog, unlogged_sleep, unlogged_sleep, same]

end Scene

open Scene (SameButLog)

section

variable {limit : Nat}

theorem Related.writeAny (entry entry' : Log.Entry) :
    Related SameButLog limit Eq (Log.Logger.write entry : StateM Scene Unit)
      (Log.Logger.write entry') :=
  fun _ _ same _ => ⟨rfl, same⟩

theorem IgnoresLog.related {α : Type} {S : α → α → Prop} {act : StateM Scene α}
    (ignores : IgnoresLog act) (same : ∀ value, S value value) :
    Related SameButLog limit S act act := by
  intro s s' scenes _
  obtain ⟨result_eq, after⟩ := ignores.eq_of_unlogged scenes
  exact ⟨result_eq ▸ same _, after⟩

end

def VaultSettings.addSlashes (v : VaultSettings) (k : Nat) : VaultSettings :=
  { v with host := v.host ++ slashes k }

namespace Vault.Session

variable [Libraries]

theorem ignoresLog_login (server : Server) (mount : String) (body : Json) :
    IgnoresLog (server.api.login mount body : StateM Scene (Except Failure Secret)) :=
  (Server.ignoresLog_exchange _).map

theorem ignoresLog_authenticate (server : Server) (c : Credentials) :
    IgnoresLog (authenticate server.api c : StateM Scene (Except Failure Secret)) := by
  cases c with
  | token token => exact .pure _
  | appId appId userId => exact ignoresLog_login server _ _
  | appRole roleId secretId => exact ignoresLog_login server _ _
  | appIdFile appId path =>
    have read : IgnoresLog (userIdIn path : StateM Scene (Except Failure Secret)) :=
      (IgnoresLog.fileText path).map
    refine read.bind fun userId => ?_
    cases userId with
    | error failure => exact .pure _
    | ok userId => exact ignoresLog_login server _ _

section

variable {limit : Nat} (v : VaultSettings) (k k' : Nat)

theorem related_attempt_slashes (number : UInt32) :
    Related SameButLog limit (Agree Eq)
      (attempt (v.addSlashes k) (Server.ofSettings v).api number)
      (attempt (v.addSlashes k') (Server.ofSettings v).api number) := by
  have grows : Grows (authenticate (Server.ofSettings v).api v.credentials :
      StateM Scene (Except Failure Secret)) := grows_authenticate v
  have ignores := ignoresLog_authenticate (Server.ofSettings v) v.credentials
  have tried : Related SameButLog limit (Agree Eq)
      (authenticate (Server.ofSettings v).api v.credentials)
      (authenticate (Server.ofSettings v).api v.credentials) :=
    ignores.related (Agree.refl fun _ => rfl)
  exact (Related.writeAny _ _).bind (fun _ => grows) fun _ _ _ => tried

theorem related_connect_slashes :
    Related SameButLog limit
      (Agree fun session session' =>
        session = session' ∧ session.api = (Server.ofSettings v).api)
      (connect (v.addSlashes k) (Server.ofSettings (v.addSlashes k)).api)
      (connect (v.addSlashes k') (Server.ofSettings (v.addSlashes k')).api) := by
  have api_eq (k : Nat) : (Server.ofSettings (v.addSlashes k)).api =
      ((Server.ofSettings v).api : Api (StateM Scene)) :=
    Server.api_add_slashes (Server.ofSettings v) k
  have grows (number : UInt32) : Grows (attempt (v.addSlashes k) (Server.ofSettings v).api number :
      StateM Scene (Except Failure Secret)) := by
    rw [← api_eq k]
    exact grows_attempt (v.addSlashes k) number
  -- Both log in through the one api of the host without the slashes.
  rw [api_eq, api_eq]
  refine related_connect_of_attempts SameButLog.blind rfl grows (related_attempt_slashes v k k')
    (.writeAny _ _) ?_
  rintro token _ rfl
  exact ⟨rfl, rfl⟩

end

end Vault.Session

inductive Settings.SlashesApart : Settings → Settings → Prop where
  | intro (v : VaultSettings) (k k' : Nat) {mapping mapping' : Template}
      (apart : mapping.SlashesApart mapping') :
      SlashesApart { mapping, store := .vault (v.addSlashes k) }
        { mapping := mapping', store := .vault (v.addSlashes k') }

def Answer.SameValue (answer answer' : Answer) : Prop :=
  ∀ value, answer.Gives value ↔ answer'.Gives value

theorem Call.gives_of_gives {found found' : Except Failure ByteArray} {kind : StoreKind}
    {call : Call} (also : ∀ value, found = .ok value → found' = .ok value) {value : ByteArray}
    (gives : (call.answer kind found).Gives value) : (call.answer kind found').Gives value := by
  have ok := found_of_gives gives
  rw [ok] at gives
  rwa [also value ok]

theorem Call.sameValue_answer {found found' : Except Failure ByteArray} (kind : StoreKind)
    (call : Call) (same : ∀ value, found = .ok value ↔ found' = .ok value) :
    (call.answer kind found).SameValue (call.answer kind found') :=
  fun _ => ⟨gives_of_gives fun value => (same value).1, gives_of_gives fun value => (same value).2⟩

namespace Vault

section

variable [Libraries] {mapping mapping' : Template} {server : Server}
  {session : Session (StateM Scene)}

omit [Libraries] in
theorem url_location_eq (server : Server) (apart : mapping.SlashesApart mapping') (call : Call) :
    server.url (call.location mapping .vault) = server.url (call.location mapping' .vault) := by
  have locate_eq (id : String) :
      server.url (mapping.locate id) = server.url (mapping'.locate id) := by
    obtain ⟨rest, m, m', located, located'⟩ := apart.exists_locate_eq id
    rw [located, located', server.url_slashes_append, server.url_slashes_append]
  cases call with
  | get id | getString id => exact locate_eq id
  | getReference reference =>
    simp only [Call.location]
    cases reference.location? .vault with
    | none => exact locate_eq reference.id
    | some location => rfl

-- The path only shows in failures.
theorem Answer.read_of_path {path : String} (path' : String) {reply : Http.Reply} {data : Json}
    (read : Answer.read path reply = .ok data) : Answer.read path' reply = .ok data := by
  unfold Answer.read at read ⊢
  split at read
  · cases read
  next present =>
  rw [if_neg present]
  split at read
  · cases read
  next allowed =>
  rw [if_neg allowed]
  split at read
  · cases read
  next success =>
  rw [if_neg success]
  split at read
  · cases read
  · cases read
  · exact read

omit [Libraries] in
theorem Payload.value_of_path {path : String} (path' : String) {data : Json} {field : String}
    {value : ByteArray} (found : Payload.value data field path = .ok value) :
    Payload.value data field path' = .ok value := by
  rw [Payload.value_eq_iff] at found ⊢
  cases found with
  | text has => exact .text has

theorem found_of_path {path : String} (path' : String) {field : String} {value : ByteArray}
    {exchanged : Except Failure Http.Reply}
    (found : ((exchanged >>= Answer.read path).bind fun data => Payload.value data field path) =
      .ok value) :
    ((exchanged >>= Answer.read path').bind fun data => Payload.value data field path') =
      .ok value := by
  obtain ⟨data, read, given⟩ := exists_of_bind_ok found
  obtain ⟨reply, rfl, read⟩ := exists_of_bind_ok read
  change ((Answer.read path' reply).bind fun data => Payload.value data field path') = _
  rw [Answer.read_of_path path' read]
  exact Payload.value_of_path path' given

theorem fetch_alike (mapping mapping' : Template) (api_eq : session.api = server.api)
    {location location' : String}
    (url_eq : server.url location = server.url location') {s s' : Scene} (same : SameButLog s s') :
    let found := ((resolver mapping session).fetch location).run s
    let found' := ((resolver mapping' session).fetch location').run s'
    (∀ value, found.1.1 = .ok value ↔ found'.1.1 = .ok value) ∧ SameButLog found.2 found'.2 := by
  have call_eq : server.readCall location session.token =
      server.readCall location' session.token := by
    simp only [Server.readCall, url_eq]
  have ignores := Server.ignoresLog_exchange (server.readCall location session.token)
  obtain ⟨exchanged_eq, after⟩ := ignores.eq_of_unlogged same
  -- The exchanges are made variables, so that nothing evaluates them.
  rw [run_fetch, run_fetch, api_eq, run_read, run_read, ← call_eq]
  generalize (Server.exchange (server.readCall location session.token) : StateM Scene _).run s =
    exchanged at exchanged_eq after ⊢
  generalize (Server.exchange (server.readCall location session.token) : StateM Scene _).run s' =
    exchanged' at exchanged_eq after ⊢
  dsimp only
  rw [← exchanged_eq]
  exact ⟨fun _ => ⟨found_of_path location', found_of_path location⟩, after⟩

theorem answer_alike (api_eq : session.api = server.api) (apart : mapping.SlashesApart mapping')
    (call : Call) {s s' : Scene} (same : SameButLog s s') :
    let given := ((resolver mapping session).answer call).run s
    let given' := ((resolver mapping' session).answer call).run s'
    given.1.2 = resolver mapping session ∧ given'.1.2 = resolver mapping' session ∧
      given.1.1.SameValue given'.1.1 ∧ SameButLog given.2 given'.2 := by
  have recorded : SameButLog (s.record (call.entry mapping .vault))
      (s'.record (call.entry mapping' .vault)) := same
  obtain ⟨found_iff, after⟩ := fetch_alike mapping mapping' api_eq
    (url_location_eq server apart call) recorded
  dsimp only
  rw [Resolver.run_answer_eq, Resolver.run_answer_eq]
  exact ⟨rfl, rfl, call.sameValue_answer .vault found_iff, after⟩

structure AnswerAlike (r r' : Resolver (StateM Scene)) (calls : List Call) (s s' : Scene) :
    Prop where
  kept : ((r.answers calls).run s).1.2 = r ∧ ((r'.answers calls).run s').1.2 = r'
  after : SameButLog ((r.answers calls).run s).2 ((r'.answers calls).run s').2
  given : List.Forall₂ Answer.SameValue ((r.answers calls).run s).1.1
    ((r'.answers calls).run s').1.1

theorem answerAlike_resolver (api_eq : session.api = server.api)
    (apart : mapping.SlashesApart mapping') (calls : List Call) {s s' : Scene}
    (same : SameButLog s s') :
    AnswerAlike (resolver mapping session) (resolver mapping' session) calls s s' := by
  induction calls generalizing s s' with
  | nil => exact ⟨⟨rfl, rfl⟩, same, .nil⟩
  | cons call calls ih =>
    obtain ⟨kept, kept', first, after⟩ := answer_alike api_eq apart call same
    obtain ⟨stays, last, rest⟩ := ih after
    constructor
    all_goals rw [Resolver.answers_cons, Resolver.answers_cons, kept, kept']
    · exact stays
    · exact last
    · exact .cons first rest

end

section

variable [Libraries]

def SentAlike (r r' : Resolver (StateM Scene)) : Prop :=
  ∀ calls s s', SameButLog s s' → AnswerAlike r r' calls s s'

theorem related_openStore_slashes {limit : Nat} (v : VaultSettings) (k k' : Nat) :
    Related SameButLog limit
      (Agree fun store store' => ∃ session, session.api = (Server.ofSettings v).api ∧
        store = .vault session ∧ store' = .vault session)
      (Resolver.openStore (.vault (v.addSlashes k)))
      (Resolver.openStore (.vault (v.addSlashes k'))) := by
  apply (Session.related_connect_slashes v k k').map
  refine fun _ _ agree => agree.map ?_
  rintro session _ ⟨rfl, api_eq⟩
  exact ⟨session, api_eq, rfl, rfl⟩

theorem related_ofSettings_slashes {limit : Nat} {settings settings' : Settings}
    (apart : settings.SlashesApart settings') (valid : settings.check = .ok ())
    (valid' : settings'.check = .ok ()) :
    Related SameButLog limit (Agree SentAlike) (Resolver.ofSettings settings)
      (Resolver.ofSettings settings') := by
  rw [Resolver.ofSettings_of_check valid, Resolver.ofSettings_of_check valid']
  cases apart with
  | intro v k k' apart =>
    refine (Related.writeAny _ _).bind (fun _ => (Resolver.grows_openStore _).map) fun _ _ _ => ?_
    refine (related_openStore_slashes v k k').map fun _ _ agree => agree.map ?_
    rintro store store' ⟨session, api_eq, rfl, rfl⟩ calls s s' same
    exact answerAlike_resolver api_eq apart calls same

theorem sameButLog_lifetime {settings settings' : Settings} {s : Scene}
    (after : SameButLog ((Resolver.ofSettings settings : StateM Scene _).run s).2
      ((Resolver.ofSettings settings' : StateM Scene _).run s).2)
    (agree : Agree SentAlike ((Resolver.ofSettings settings : StateM Scene _).run s).1
      ((Resolver.ofSettings settings' : StateM Scene _).run s).1) (calls : List Call) :
    SameButLog ((Resolver.lifetime settings calls : StateM Scene _).run s).2
      ((Resolver.lifetime settings' calls : StateM Scene _).run s).2 := by
  rw [Resolver.run_lifetime, Resolver.run_lifetime]
  revert after agree
  generalize (Resolver.ofSettings settings : StateM Scene _).run s = made
  generalize (Resolver.ofSettings settings' : StateM Scene _).run s = made'
  obtain ⟨made, later⟩ := made
  obtain ⟨made', later'⟩ := made'
  intro after agree
  cases agree with
  | error failure => exact after
  | ok alike => exact (alike calls later later' after).after

theorem slashes_at_seam_not_sent :
    (∀ (server : Server) (path : String) (k m : Nat),
      ({ server with host := server.host ++ slashes k } : Server).url (slashes m ++ path) =
        server.url path) ∧
    (∀ (server : Server) (path : String), ∃ front back, Server.Seam server.host path front back ∧
      server.url path = front ++ "/v1/" ++ back) ∧
    ∀ settings settings' : Settings, settings.SlashesApart settings' → settings.check = .ok () →
      settings'.check = .ok () → ∀ act act', Resolver.Makes settings act →
        Resolver.Makes settings' act' → ∀ s, SameButLog (act.run s).2 (act'.run s).2 ∧
          Agree SentAlike (act.run s).1 (act'.run s).1 := by
  refine ⟨?_, ?_, ?_⟩
  · intro server path k m
    rw [Server.url_append_slashes, Server.url_slashes_append]
  · intro server path
    obtain ⟨front, back, seam⟩ := Server.exists_seam server.host path
    exact ⟨front, back, seam, seam.url_eq⟩
  · intro settings settings' apart valid valid' act act' makes makes' s
    rw [makes.eq_ofSettings, makes'.eq_ofSettings]
    exact (related_ofSettings_slashes apart valid valid' s s rfl (Nat.le_refl _)).symm

end

def slashedId : Template :=
  .ofScan "//\x7b\x7b .ID \x7d\x7d" [.literal ['/', '/'], .id] (by cbv) (by decide)

def basedVault : VaultSettings where
  host := "http://vault.test/base"
  credentials := Resolver.roleCredentials "s"

theorem slashes_at_seam_not_sent_slashed :
    let settings : Settings := { mapping := .byId, store := .vault (basedVault.addSlashes 0) }
    let settings' : Settings := { mapping := slashedId, store := .vault (basedVault.addSlashes 2) }
    let s := Resolver.twoReplies "t" "v"
    let ended := (Resolver.lifetime settings [.get "/a//b"] : StateM Scene _).run s
    let ended' := (Resolver.lifetime settings' [.get "/a//b"] : StateM Scene _).run s
    settings.SlashesApart settings' ∧ settings.check = .ok () ∧ settings'.check = .ok () ∧
      ended.2.requests.map (·.url.target) = ["/base/v1/auth/approle/login", "/base/v1/a//b"] ∧
      ended'.2.requests = ended.2.requests := by
  intro settings settings' s ended ended'
  have apart : settings.SlashesApart settings' :=
    .intro basedVault 0 2 ⟨Template.byId.source, 0, 2, rfl, rfl⟩
  have valid : settings.check = .ok () := by decide
  have valid' : settings'.check = .ok () := by decide
  have sent : ended.2.requests.map (·.url.target) =
      ["/base/v1/auth/approle/login", "/base/v1/a//b"] := by decide +kernel
  refine ⟨apart, valid, valid', sent, ?_⟩
  obtain ⟨after, agree⟩ := slashes_at_seam_not_sent.2.2 settings settings' apart valid valid' _ _
    .ofSettings .ofSettings s
  exact (sameButLog_lifetime after agree [.get "/a//b"]).requests_eq.symm

end Vault

end SecretResolver
