import SecretResolver.Proofs.Http.Target
import SecretResolver.Vault.Server

set_option autoImplicit false

namespace SecretResolver

namespace Http.Authority

theorem apart_of_step {p q : Progress} {c : Char} (stepped : step p c = some q) :
    Url.endsAuthority c = false := by
  by_contra ends
  have char : c = '/' ∨ c = '?' ∨ c = '#' := by
    simp [Url.endsAuthority] at ends
    grind
  rcases char with rfl | rfl | rfl <;> simp [step, isPlain] at stepped

theorem apart_of_foldlM {p q : Progress} {cs : List Char} (read : cs.foldlM step p = some q) :
    ∀ c ∈ cs, Url.endsAuthority c = false := by
  induction cs generalizing p with
  | nil => simp
  | cons c cs ih =>
    simp only [List.foldlM_cons, Option.bind_eq_bind, Option.bind_eq_some_iff] at read
    obtain ⟨next, stepped, read⟩ := read
    simpa [apart_of_step stepped] using ih read

theorem apart_of_isWellFormed {cs : List Char} (wellFormed : isWellFormed cs = true) :
    cs ≠ [] ∧ ∀ c ∈ cs, Url.endsAuthority c = false := by
  simp only [isWellFormed, Bool.and_eq_true, Option.any_eq_true] at wellFormed
  obtain ⟨⟨progress, read, -⟩, _, started, -⟩ := wellFormed
  refine ⟨?_, apart_of_foldlM read⟩
  rintro rfl
  cases started

end Http.Authority

namespace Http.Url

def IsScheme (scheme : List Char) : Prop :=
  scheme.map Char.toLower = "http://".toList ∨ scheme.map Char.toLower = "https://".toList

theorem afterScheme?_append {name : String} {scheme : List Char}
    (lower : scheme.map Char.toLower = name.toList) (rest : List Char) :
    afterScheme? name (scheme ++ rest) = some rest := by
  have length_eq : name.length = scheme.length := by
    rw [← String.length_toList, ← lower, List.length_map]
  simp [afterScheme?, length_eq, lower]

theorem splitScheme_append {scheme : List Char} (isScheme : IsScheme scheme) (rest : List Char) :
    ∃ secure, splitScheme (scheme ++ rest) = some (secure, rest) := by
  unfold splitScheme
  rcases isScheme with lower | lower
  · rw [afterScheme?_append lower]
    exact ⟨_, rfl⟩
  · have length_eq := congrArg List.length lower
    have other : afterScheme? "http://" (scheme ++ rest) = none := by
      have start : ((scheme ++ rest).take 7).map Char.toLower = "https:/".toList := by
        rw [List.take_append_of_le_length (by simp at length_eq; omega), List.map_take, lower]
        rfl
      apply if_neg
      change ¬ ((scheme ++ rest).take 7).map Char.toLower = _
      rw [start]
      decide
    rw [other, afterScheme?_append lower]
    exact ⟨_, rfl⟩

theorem takeWhile_authority {authority : List Char}
    (apart : ∀ c ∈ authority, endsAuthority c = false) (path : List Char) :
    (authority ++ '/' :: path).takeWhile (fun c => !endsAuthority c) = authority ∧
      (authority ++ '/' :: path).dropWhile (fun c => !endsAuthority c) = '/' :: path := by
  have within : ∀ c ∈ authority, (!endsAuthority c) = true := by simpa using apart
  rw [List.takeWhile_append_of_pos within, List.dropWhile_append_of_pos within]
  simp [endsAuthority]

theorem read_eq_some {scheme authority path : List Char} {text : String}
    (isScheme : IsScheme scheme) (wellFormed : Authority.isWellFormed authority = true)
    (text_eq : text.toList = scheme ++ (authority ++ '/' :: path)) (uncut : '#' ∉ path)
    (allowed : isTarget ('/' :: path) = true) (fits : text.utf8ByteSize ≤ maxBytes) :
    ∃ url, read text = some url ∧ url.target = String.ofList ('/' :: path) := by
  obtain ⟨secure, split⟩ := splitScheme_append isScheme (authority ++ '/' :: path)
  obtain ⟨taken, dropped⟩ :=
    takeWhile_authority (Authority.apart_of_isWellFormed wellFormed).2 path
  have whole : ('/' :: path).takeWhile (· != '#') = '/' :: path := by
    apply List.takeWhile_eq_self_iff.2
    intro c mem
    simp only [bne_iff_ne]
    rintro rfl
    simp [uncut] at mem
  refine ⟨⟨secure, String.ofList authority, String.ofList ('/' :: path)⟩, ?_, rfl⟩
  simp [read, text_eq, split, taken, dropped, whole, targetOf, wellFormed, allowed, fits]

end Http.Url

theorem Http.Call.request?_eq_some {call : Http.Call} {url : Http.Url}
    (read : Http.Url.read call.url = some url)
    (headers : call.headers.all fun (_, value) => value.toList.all Http.isHeaderChar) :
    call.request? = some ⟨call.method, url, call.headers, call.body⟩ := by
  simp [request?, read, headers]

namespace Vault.Server

structure Reachable (server : Server) (token : Secret) : Prop where
  host : ∃ scheme authority slashes, server.host.toList = scheme ++ (authority ++ slashes) ∧
    Http.Url.IsScheme scheme ∧ Http.Authority.isWellFormed authority = true ∧
      ∀ c ∈ slashes, c = '/'
  token : token.expose.toList.all Http.isHeaderChar
  tenant : ∀ name ∈ server.tenant, name.toList.all Http.isHeaderChar

structure CanSend (server : Server) (location : String) : Prop where
  uncut : '#' ∉ location.toList
  bare : location.toList.head? ≠ some '/'
  allowed : Http.Url.isTarget location.toList = true
  fits : (server.url location).utf8ByteSize ≤ Http.Url.maxBytes

-- The authority has no slash to end with, so only what follows it loses slashes.
theorem dropEndWhile_of_authority {authority : List Char} (scheme : List Char)
    (some_char : authority ≠ []) (apart : ∀ c ∈ authority, Http.Url.endsAuthority c = false)
    (path : List Char) : Text.dropEndWhile (· == '/') (scheme ++ (authority ++ path)) =
      scheme ++ authority ++ Text.dropEndWhile (· == '/') path := by
  have last : (scheme ++ authority).getLast? = some (authority.getLast some_char) := by
    rw [List.getLast?_append, List.getLast?_eq_some_getLast some_char, Option.some_or]
  have noSlash : (authority.getLast some_char == '/') = false := by
    rw [beq_eq_false_iff_ne]
    intro slash
    have ends := apart _ (List.getLast_mem some_char)
    rw [slash] at ends
    exact absurd ends (by decide)
  rw [← List.append_assoc, Text.dropEndWhile_append last noSlash]

theorem dropEndWhile_host {host authority slashes : List Char}
    (wellFormed : Http.Authority.isWellFormed authority = true)
    (onlySlashes : ∀ c ∈ slashes, c = '/') :
    Text.dropEndWhile (· == '/') (host ++ (authority ++ slashes)) = host ++ authority := by
  obtain ⟨some_char, apart⟩ := Http.Authority.apart_of_isWellFormed wellFormed
  have all : ∀ c ∈ slashes, (c == '/') = true := by simpa using onlySlashes
  have none_left : Text.dropEndWhile (· == '/') slashes = [] := List.rdropWhile_eq_nil_iff.2 all
  rw [dropEndWhile_of_authority host some_char apart, none_left, List.append_nil]

theorem isTarget_version {location : List Char} (allowed : Http.Url.isTarget location = true) :
    Http.Url.isTarget ("/v1/".toList ++ location) = true := by
  simp only [Http.Url.isTarget, Bool.and_eq_true] at allowed ⊢
  have version : ∀ c ∈ "/v1/".toList, (c != '?') = true := List.all_eq_true.1 (by decide)
  have isPath : "/v1/".toList.all Http.Url.isPathChar = true := by decide
  rw [List.takeWhile_append_of_pos version, List.dropWhile_append_of_pos version, List.all_append,
    isPath, Bool.true_and]
  exact allowed

theorem exists_request_read {server : Server} {token : Secret} {location : String}
    (reachable : server.Reachable token) (canSend : server.CanSend location) :
    ∃ request, (server.readCall location token).request? = some request ∧
      request.url.target = "/v1/" ++ location := by
  obtain ⟨scheme, authority, slashes, host_eq, isScheme, wellFormed, onlySlashes⟩ := reachable.host
  have url_eq : (server.url location).toList =
      scheme ++ (authority ++ '/' :: ('v' :: '1' :: '/' :: location.toList)) := by
    have bare : location.toList.dropWhile (· == '/') = location.toList := by
      apply Text.dropWhile_eq_self
      intro c first
      have notFirst := canSend.bare
      rw [Option.mem_def.1 first] at notFirst
      simpa using notFirst
    rw [url, String.toList_ofList, host_eq, dropEndWhile_host wellFormed onlySlashes, bare]
    simp
  obtain ⟨url, read, target_eq⟩ := Http.Url.read_eq_some isScheme wellFormed url_eq
    (by simpa using canSend.uncut) (isTarget_version canSend.allowed) canSend.fits
  have headers : (server.readCall location token).headers.all
      (fun header => header.2.toList.all Http.isHeaderChar) = true := by
    have tenant := reachable.tenant
    simp only [readCall, tenantHeader, List.all_cons, reachable.token, Bool.true_and]
    cases named : server.tenant with
    | none => rfl
    | some name => simpa using tenant name named
  refine ⟨_, Http.Call.request?_eq_some read headers, ?_⟩
  rw [target_eq]
  exact String.toList_inj.1 (by simp)

end Vault.Server

end SecretResolver
