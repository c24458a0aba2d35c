import SecretResolver.Proofs.Resolver.Calls
import SecretResolver.Proofs.Resolver.Construction
import SecretResolver.Proofs.Settings.Requirements
import SecretResolver.Proofs.Vault.Address
import SecretResolver.Proofs.Vault.Exchange

set_option autoImplicit false

namespace SecretResolver

theorem VaultSettings.hasScheme_of_accepted {v : VaultSettings} (accepted : v.problem? = none) :
    HasScheme v.host := by
  unfold problem? at accepted
  split at accepted
  · cases accepted
  split at accepted
  · cases accepted
  · next schemed =>
    rw [Bool.not_eq_true', Bool.not_eq_false] at schemed
    exact hasScheme_iff.1 schemed

def IsSchemeName (name : List Char) : Prop :=
  name = "http:".toList ∨ name = "https:".toList

theorem HasScheme.exists_name {host : String} (scheme : HasScheme host) :
    ∃ name rest, IsSchemeName name ∧ host.toList = name ++ ('/' :: '/' :: rest) := by
  rcases scheme with ⟨rest, host_eq⟩ | ⟨rest, host_eq⟩
  · exact ⟨"http:".toList, rest, .inl rfl, host_eq.symm⟩
  · exact ⟨"https:".toList, rest, .inr rfl, host_eq.symm⟩

namespace IsSchemeName

variable {name : List Char}

theorem isScheme (isName : IsSchemeName name) : Http.Url.IsScheme (name ++ ['/', '/']) := by
  rcases isName with rfl | rfl
  · exact .inl (by decide)
  · exact .inr (by decide)

theorem getLast? (isName : IsSchemeName name) : name.getLast? = some ':' := by
  rcases isName with rfl | rfl <;> rfl

theorem splitScheme_eq_none (isName : IsSchemeName name) (cs : List Char) :
    Http.Url.splitScheme (name ++ ("/v1/".toList ++ cs)) = none := by
  rcases isName with rfl | rfl <;> rfl

end IsSchemeName

namespace Http.Url

theorem read_eq_none {text : String} (unsplit : splitScheme text.toList = none) :
    read text = none := by
  rw [read, unsplit]
  rfl

theorem isWellFormed_of_read {scheme cs : List Char} {text : String} {url : Url}
    (isScheme : IsScheme scheme) (text_eq : text.toList = scheme ++ cs) (h : read text = some url) :
    Authority.isWellFormed (cs.takeWhile fun c => !endsAuthority c) = true := by
  obtain ⟨secure, split⟩ := splitScheme_append isScheme cs
  simp only [read, text_eq, split, Option.bind_eq_bind, Option.bind_some] at h
  split at h
  · next sendable => exact sendable.1
  · cases h

end Http.Url

namespace Vault.Server

def NamesHost (scheme : List Char) (url : String) : Prop :=
  ∃ host path, host ≠ [] ∧ url.toList = scheme ++ (host ++ ("/v1/".toList ++ path))

def authorityOf (rest : List Char) : List Char :=
  rest.takeWhile fun c => !Http.Url.endsAuthority c

section

variable {server : Server} {name rest : List Char}

theorem toList_url_of_named (host_eq : server.host.toList = name ++ ('/' :: '/' :: rest))
    (named : ∃ c ∈ rest, c ≠ '/') (path : String) :
    Text.dropEndWhile (· == '/') rest ≠ [] ∧ (server.url path).toList = name ++ ['/', '/'] ++
      (Text.dropEndWhile (· == '/') rest ++
        ("/v1/".toList ++ path.toList.dropWhile (· == '/'))) := by
  obtain ⟨c, mem, apart⟩ := named
  obtain ⟨before, after, rfl⟩ := List.append_of_mem mem
  have kept : (c == '/') = false := beq_eq_false_iff_ne.2 apart
  have dropped (front : List Char) :
      Text.dropEndWhile (· == '/') (front ++ (before ++ c :: after)) =
      front ++ (before ++ [c]) ++ Text.dropEndWhile (· == '/') after := by
    have last : (front ++ (before ++ [c])).getLast? = some c := by simp
    rw [← Text.dropEndWhile_append last kept]
    simp
  have whole := dropped []
  have behind := dropped (name ++ ['/', '/'])
  simp only [List.nil_append, List.append_assoc, List.cons_append] at whole behind
  constructor
  · rw [whole]
    simp
  · rw [url, String.toList_ofList, host_eq, behind, whole]
    simp

theorem toList_url_of_slashes (isName : IsSchemeName name)
    (host_eq : server.host.toList = name ++ ('/' :: '/' :: rest))
    (slashes : ∀ c ∈ rest, c = '/') (path : String) :
    (server.url path).toList = name ++ ("/v1/".toList ++ path.toList.dropWhile (· == '/')) := by
  have all : ∀ c ∈ '/' :: '/' :: rest, (c == '/') = true := by simpa using slashes
  have none_left : Text.dropEndWhile (· == '/') ('/' :: '/' :: rest) = [] :=
    List.rdropWhile_eq_nil_iff.2 all
  rw [url, String.toList_ofList, host_eq, Text.dropEndWhile_append isName.getLast? (by decide),
    none_left, List.append_nil, List.append_assoc]

theorem namesHost_iff (isName : IsSchemeName name)
    (host_eq : server.host.toList = name ++ ('/' :: '/' :: rest)) (path : String) :
    NamesHost (name ++ ['/', '/']) (server.url path) ↔ ∃ c ∈ rest, c ≠ '/' := by
  constructor
  · rintro ⟨host, tail, -, url_eq⟩
    by_contra unnamed
    have slashes : ∀ c ∈ rest, c = '/' := by simpa using unnamed
    rw [toList_url_of_slashes isName host_eq slashes, List.append_assoc,
      List.append_cancel_left_eq] at url_eq
    exact absurd url_eq (by simp)
  · intro named
    obtain ⟨some_char, url_eq⟩ := toList_url_of_named host_eq named path
    exact ⟨_, _, some_char, url_eq⟩

theorem authorityOf_append_of_ended (kept : List Char) {tail : List Char}
    (ended : authorityOf tail = []) : authorityOf (kept ++ tail) = authorityOf kept := by
  unfold authorityOf at ended ⊢
  rw [List.takeWhile_append, ended, List.append_nil]
  split
  · next whole => exact ((List.takeWhile_prefix _).eq_of_length whole).symm
  · rfl

-- The slashes at the end of a host are no part of its authority, and the version begins with one.
theorem authorityOf_kept (rest cs : List Char) :
    authorityOf (Text.dropEndWhile (· == '/') rest ++ '/' :: cs) = authorityOf rest := by
  have split : rest = Text.dropEndWhile (· == '/') rest ++ rest.rtakeWhile (· == '/') :=
    List.rdropWhile_append_rtakeWhile.symm
  have slashes : authorityOf (rest.rtakeWhile (· == '/')) = [] := by
    cases tail : rest.rtakeWhile (· == '/') with
    | nil => rfl
    | cons c cs =>
      have mem : c ∈ rest.rtakeWhile (· == '/') := tail ▸ List.mem_cons_self
      have slash := List.mem_rtakeWhile_imp (p := (· == '/')) mem
      rw [beq_iff_eq.1 slash]
      rfl
  calc authorityOf (Text.dropEndWhile (· == '/') rest ++ '/' :: cs)
      = authorityOf (Text.dropEndWhile (· == '/') rest) := authorityOf_append_of_ended _ rfl
    _ = authorityOf rest := by rw [split, authorityOf_append_of_ended _ slashes, ← split]

theorem isWellFormed_of_read_url (isName : IsSchemeName name)
    (host_eq : server.host.toList = name ++ ('/' :: '/' :: rest)) {path : String} {url : Http.Url}
    (h : Http.Url.read (server.url path) = some url) :
    Http.Authority.isWellFormed (authorityOf rest) = true := by
  by_cases named : ∃ c ∈ rest, c ≠ '/'
  · obtain ⟨-, url_eq⟩ := toList_url_of_named host_eq named path
    have wellFormed := Http.Url.isWellFormed_of_read isName.isScheme url_eq h
    exact authorityOf_kept rest _ ▸ wellFormed
  · have slashes : ∀ c ∈ rest, c = '/' := by simpa using named
    have unsplit := isName.splitScheme_eq_none (path.toList.dropWhile (· == '/'))
    rw [← toList_url_of_slashes isName host_eq slashes path] at unsplit
    rw [Http.Url.read_eq_none unsplit] at h
    cases h

variable {m : Type → Type} [Monad m] [Host m] [Libraries]

theorem exchange_of_unreadable {call : Http.Call} (unreadable : Http.Url.read call.url = none) :
    (exchange call : m (Except Failure Http.Reply)) =
      pure (.error (transportFault (Libraries.addressComplaint call.url))) := by
  have unsendable : call.request? = none := by
    rw [Http.Call.request?, unreadable]
    rfl
  have complaint_eq : call.complaint = Libraries.addressComplaint call.url := by
    rw [Http.Call.complaint, unreadable]
  rw [exchange, unsendable, complaint_eq]

end

section

variable [Libraries]

structure Unreachable (server : Server) : Prop where
  login : ∀ {m : Type → Type} [Monad m] [LawfulMonad m] [Host m] (mount : String) (body : Json),
    (server.api : Api m).login mount body =
      pure (.error (transportFault
        (Libraries.addressComplaint (server.url s!"auth/{mount}/login"))))
  read : ∀ {m : Type → Type} [Monad m] [LawfulMonad m] [Host m] (path : String) (token : Secret),
    (server.api : Api m).read path token =
      pure (.error (transportFault (Libraries.addressComplaint (server.url path))))

theorem unreachable_of_unreadable {server : Server}
    (unreadable : ∀ path, Http.Url.read (server.url path) = none) : server.Unreachable where
  login {m} _ _ _ mount body := by
    have failed : (exchange (server.loginCall mount body) : m _) = _ :=
      exchange_of_unreadable (unreadable _)
    simp only [api, failed, pure_bind]
    rfl
  read {m} _ _ _ path token := by
    have failed : (exchange (server.readCall path token) : m _) = _ :=
      exchange_of_unreadable (unreadable _)
    simp only [api, failed, pure_bind]
    rfl

theorem accepted_host_in_addresses (v : VaultSettings) (accepted : v.problem? = none) :
    ∃ name rest, IsSchemeName name ∧ v.host.toList = name ++ ('/' :: '/' :: rest) ∧
      (∀ path, NamesHost (name ++ ['/', '/']) ((ofSettings v).url path) ↔ ∃ c ∈ rest, c ≠ '/') ∧
      ((∀ c ∈ rest, c = '/') → ∀ path, ((ofSettings v).url path).toList =
        name ++ ("/v1/".toList ++ path.toList.dropWhile (· == '/'))) ∧
      (Http.Authority.isWellFormed (authorityOf rest) = false → (ofSettings v).Unreachable) := by
  obtain ⟨name, rest, isName, host_eq⟩ := (VaultSettings.hasScheme_of_accepted accepted).exists_name
  refine ⟨name, rest, isName, host_eq, namesHost_iff isName host_eq,
    toList_url_of_slashes isName host_eq, ?_⟩
  intro unnamed
  apply unreachable_of_unreadable
  intro path
  cases read : Http.Url.read ((ofSettings v).url path) with
  | none => rfl
  | some url =>
    cases unnamed.symm.trans (isWellFormed_of_read_url isName host_eq read)

end

def queryHost : VaultSettings where
  host := "https://?/"
  credentials := .token ⟨"token"⟩

theorem accepted_host_in_addresses_query :
    queryHost.problem? = none ∧
      NamesHost "https://".toList ((ofSettings queryHost).url "//a/b") ∧
      (ofSettings queryHost).url "//a/b" = "https://?/v1/a/b" ∧
      (ofSettings queryHost).Unreachable := by
  have accepted : queryHost.problem? = none := by decide
  obtain ⟨name, rest, isName, host_eq, names, -, unreachable⟩ :=
    accepted_host_in_addresses queryHost accepted
  have host_chars : queryHost.host.toList = "https:".toList ++ ['/', '/', '?', '/'] := by decide
  rw [host_chars] at host_eq
  obtain rfl | rfl := isName
  · cases host_eq
  · cases host_eq
    exact ⟨accepted, (names "//a/b").2 ⟨'?', by decide⟩, by decide, unreachable (by decide)⟩

def hostless : VaultSettings where
  host := "http://"
  credentials := .token ⟨"token"⟩

theorem hostless_accepted :
    let opened := (Resolver.lifetime { mapping := .byId, store := .vault hostless } [.get "a"] :
      StateM Scene _).run { replies := some [] }
    hostless.problem? = none ∧
      (ofSettings hostless).url "a" = "http:/v1/a" ∧
      ¬NamesHost "http://".toList ((ofSettings hostless).url "a") ∧
      opened.1 = .ok [.bytes (.error
        (transportFault (Libraries.addressComplaint "http:/v1/a")))] ∧
      opened.2.requests = [] := by
  have valid : Settings.check { mapping := .byId, store := .vault hostless } = .ok () := by decide
  have setup : (Resolver.ofSettings { mapping := .byId, store := .vault hostless } :
      StateM Scene _) = _ := Resolver.isSetup_ofSettings valid
  rw [Resolver.run_lifetime, setup]
  refine ⟨by decide, by decide, fun names => ?_, rfl, rfl⟩
  have host_eq : (ofSettings hostless).host.toList = "http:".toList ++ ('/' :: '/' :: []) := by
    decide
  obtain ⟨c, mem, -⟩ := (namesHost_iff (.inl rfl) host_eq "a").1 names
  cases mem

end Vault.Server

end SecretResolver
