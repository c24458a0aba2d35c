import SecretResolver.Proofs.Resolver.Construction
import SecretResolver.Proofs.Vault.Stock

set_option autoImplicit false

namespace SecretResolver

namespace Stock

def Asks (mapping : Template) (Allowed : String → Prop) (calls : List Call) : Prop :=
  ∀ call ∈ calls, ∃ id, ById call id ∧ Allowed (mapping.locate id)

theorem location_of_byId {call : Call} {id : String} (byId : ById call id) (mapping : Template)
    (kind : StoreKind) : call.location mapping kind = mapping.locate id := by
  cases byId <;> rfl

theorem Asks.mono {mapping : Template} {Allowed Allowed' : String → Prop} {calls : List Call}
    (asks : Asks mapping Allowed calls)
    (weaker : ∀ location, Allowed location → Allowed' location) :
    Asks mapping Allowed' calls := by
  intro call mem
  obtain ⟨id, byId, allowed⟩ := asks call mem
  exact ⟨id, byId, weaker _ allowed⟩

theorem Asks.of_cons {mapping : Template} {Allowed : String → Prop} {call : Call}
    {calls : List Call} (asks : Asks mapping Allowed (call :: calls)) :
    (∃ id, ById call id ∧ Allowed (mapping.locate id)) ∧ Asks mapping Allowed calls :=
  List.forall_mem_cons.1 asks

end Stock

theorem getElem?_filterMap_of_isSome {α β : Type} {f : α → Option β} {items : List α}
    (all : ∀ item ∈ items, (f item).isSome) (i : Nat) :
    (items.filterMap f)[i]? = items[i]?.bind f := by
  induction items generalizing i with
  | nil => simp
  | cons item items ih =>
    obtain ⟨first, rest⟩ := List.forall_mem_cons.1 all
    obtain ⟨result, result_eq⟩ := Option.isSome_iff_exists.1 first
    cases i with
    | zero => simp [result_eq]
    | succ i => simp [result_eq, ih rest]

namespace Vault

def AnsweredBy (serve : String → Http.Reply) (s s' : Scene) : Prop :=
  ∀ requests, s'.requests = s.requests ++ requests →
    ∀ i request, requests[i]? = some request → s.answerTo i = .ok (serve request.url.target)

theorem AnsweredBy.of_passage {serve : String → Http.Reply} {s s' last : Scene}
    {request : Http.Request} {entries : List Log.Entry} {more : List Http.Request}
    (passage : Scene.Passage s s' [request] entries) (later : last.requests = s'.requests ++ more)
    (answered : AnsweredBy serve s last) :
    s.answerTo 0 = .ok (serve request.url.target) ∧ AnsweredBy serve s' last := by
  constructor
  · apply answered (request :: more) _ 0 request rfl
    rw [later, passage.requests_eq, List.append_assoc, List.singleton_append]
  · intro requests requests_eq i next sent
    rw [passage.answerTo_eq]
    apply answered (request :: requests) _ _ next
    · simpa [Nat.add_comm] using sent
    · rw [requests_eq, passage.requests_eq, List.append_assoc, List.singleton_append]

end Vault

section

variable [Libraries]

namespace Resolver

def Made (settings : Settings) (r : Resolver (StateM Scene)) (s : Scene) : Prop :=
  ∃ start, (ofSettings settings : StateM Scene _).run start = (.ok r, s)

theorem Made.exists_opened {mapping : Template} {store : StoreSettings}
    {r : Resolver (StateM Scene)} {s : Scene} (made : Made { mapping, store } r s) :
    ∃ opened start, r = { mapping, store := opened } ∧
      (openStore store : StateM Scene _).run start = (.ok opened, s) := by
  obtain ⟨start, made⟩ := made
  rw [run_ofSettings] at made
  generalize start.record _ = start at made
  generalize opening : (openStore store : StateM Scene _).run start = opened at made
  obtain ⟨opened, last⟩ := opened
  cases valid : Settings.check { mapping, store } with
  | error failure =>
    rw [valid] at made
    cases made
  | ok =>
    rw [valid] at made
    cases opened with
    | error failure => cases made
    | ok opened =>
      cases made
      exact ⟨opened, start, rfl, opening⟩

theorem forall₂_answers {Inv : List Call → Resolver (StateM Scene) → Scene → Prop}
    {Right : Call → Answer → Prop}
    (step : ∀ call calls r s, Inv (call :: calls) r s →
      Right call ((r.answer call).run s).1.1 ∧
        Inv calls ((r.answer call).run s).1.2 ((r.answer call).run s).2)
    {calls : List Call} {r : Resolver (StateM Scene)} {s : Scene} (inv : Inv calls r s) :
    List.Forall₂ Right calls ((r.answers calls).run s).1.1 := by
  induction calls generalizing r s with
  | nil => exact .nil
  | cons call calls ih =>
    obtain ⟨right, kept⟩ := step call calls r s inv
    rw [answers_cons]
    exact .cons right (ih kept)

end Resolver

section

variable {stock : Stock} {mapping : Template} {calls : List Call}

def Environment.resolver (mapping : Template) : Resolver (StateM Scene) where
  mapping
  store := .environment

theorem Environment.eq_of_made {r : Resolver (StateM Scene)} {s : Scene}
    (made : Resolver.Made { mapping, store := .environment } r s) : r = resolver mapping := by
  obtain ⟨_, _, rfl, opened⟩ := made.exists_opened
  cases opened
  rfl

theorem SecretsFile.eq_of_made {r : Resolver (StateM Scene)} {s : Scene} {path : String}
    (made : Resolver.Made { mapping, store := .jsonFile path } r s) :
    r = holding mapping path none := by
  obtain ⟨_, _, rfl, opened⟩ := made.exists_opened
  cases opened
  rfl

theorem Environment.answers_of_holds {s : Scene}
    (asks : Stock.Asks mapping stock.Unmistaken calls) (holds : Holds s stock) :
    List.Forall₂ (stock.Answers mapping) calls (((resolver mapping).answers calls).run s).1.1 := by
  let Inv (calls : List Call) (r : Resolver (StateM Scene)) (s : Scene) : Prop :=
    Stock.Asks mapping stock.Unmistaken calls ∧ r = resolver mapping ∧ Holds s stock
  have inv : Inv calls (resolver mapping) s := ⟨asks, rfl, holds⟩
  refine Resolver.forall₂_answers ?_ inv
  rintro call calls _ s ⟨asks, rfl, holds⟩
  obtain ⟨⟨id, byId, unmistaken⟩, later⟩ := asks.of_cons
  rw [Resolver.run_answer_eq]
  refine ⟨?_, later, rfl, holds⟩
  apply Stock.answers_of_finds byId
  rw [← Stock.location_of_byId byId mapping .environment] at unmistaken ⊢
  exact finds_valueOf holds unmistaken

theorem SecretsFile.answers_of_holds {Allowed : String → Prop} {s : Scene} {path : String}
    (asks : Stock.Asks mapping Allowed calls) (holds : Holds s path stock) :
    List.Forall₂ (stock.Answers mapping) calls
      (((holding mapping path none).answers calls).run s).1.1 := by
  obtain ⟨c, loads, perm⟩ := load_of_holds holds
  rw [answers_holding, loads, List.forall₂_map_right_iff, List.forall₂_same]
  intro call mem
  obtain ⟨id, byId, -⟩ := asks call mem
  rw [← answer_valueAt]
  apply Stock.answers_of_finds byId
  rw [Question.location, Stock.location_of_byId byId]
  exact finds_valueAt perm path _

end

namespace Vault

def opened (v : VaultSettings) (token : Secret) : Session (StateM Scene) where
  api := (Server.ofSettings v).api
  token
  valueField := v.valueField

theorem exists_eq_of_made {v : VaultSettings} {mapping : Template} {r : Resolver (StateM Scene)}
    {s : Scene} (made : Resolver.Made { mapping, store := .vault v } r s) :
    ∃ token, r = resolver mapping (opened v token) := by
  obtain ⟨store, start, rfl, opening⟩ := made.exists_opened
  obtain ⟨_, _, connected⟩ := exists_connected v start
  generalize connecting : (Session.connect v (Server.ofSettings v).api : StateM Scene _).run start =
    result at connected
  have opening : (result.1.map Store.vault, result.2) = (.ok store, s) := by
    rw [← connecting]
    exact opening
  obtain ⟨result, last⟩ := result
  cases result with
  | error failure => cases opening
  | ok session =>
    obtain ⟨api_eq, valueField_eq, -⟩ := connected.opened session rfl
    cases opening
    refine ⟨session.token, ?_⟩
    rw [opened, ← api_eq, ← valueField_eq]
    rfl

structure Holds (v : VaultSettings) (r : Resolver (StateM Scene)) (calls : List Call) (s : Scene)
    (stock : Stock) (metadata : String → Option Json) (serve : String → Http.Reply) : Prop where
  serves : Serves serve v.valueField stock metadata
  reachable : ∀ session, r.store = .vault session → (Server.ofSettings v).Reachable session.token
  isServed : s.isServed = true
  answered : AnsweredBy serve s ((r.answers calls).run s).2

section

variable {v : VaultSettings} {token : Secret} {mapping : Template} {stock : Stock}
  {metadata : String → Option Json} {serve : String → Http.Reply} {s : Scene}

theorem run_fetch_of_reply {session : Session (StateM Scene)} {location : String}
    {reply : Http.Reply} (api_eq : session.api = (Server.ofSettings v).api)
    (replied : s.reply? ((Server.ofSettings v).readCall location session.token) = some reply)
    (stands : Answer.Stands reply) : (((resolver mapping session).fetch location).run s).1.1 =
      (Answer.read location reply).bind fun data =>
        Payload.value data session.valueField location := by
  rw [run_fetch, api_eq, run_read, Server.exchange_of_reply replied,
    Http.Reply.settled_eq_ok_iff.2 ⟨stands, rfl⟩]
  rfl

theorem answer_eq {session : Session (StateM Scene)} (call : Call) :
    (((resolver mapping session).answer call).run s).1.1 =
      call.answer .vault (((resolver mapping session).fetch (call.location mapping .vault)).run
        (s.record (call.entry mapping .vault))).1.1 := by
  rw [Resolver.run_answer_eq]
  rfl

theorem answer_of_reply {call : Call} {reply : Http.Reply}
    (replied : s.reply? ((Server.ofSettings v).readCall (call.location mapping .vault) token) =
      some reply) (stands : Answer.Stands reply) :
    (((resolver mapping (opened v token)).answer call).run s).1.1 =
      call.answer .vault ((Answer.read (call.location mapping .vault) reply).bind fun data =>
        Payload.value data v.valueField (call.location mapping .vault)) := by
  have replied : (s.record (call.entry mapping .vault)).reply? ((Server.ofSettings v).readCall
      (call.location mapping .vault) (opened v token).token) = some reply := replied
  have api_eq : (opened v token).api = (Server.ofSettings v).api := rfl
  rw [answer_eq, run_fetch_of_reply api_eq replied stands]
  rfl

omit [Libraries] in
theorem exists_readFor {call : Call} {id : String}
    (reachable : (Server.ofSettings v).Reachable token) (isServed : s.isServed = true)
    (byId : Stock.ById call id) (canSend : (Server.ofSettings v).CanSend (mapping.locate id)) :
    ∃ request, readFor mapping v token s call = some request ∧
      request.url.target = "/v1/" ++ mapping.locate id := by
  rw [readFor, Scene.sent?, if_pos isServed, Stock.location_of_byId byId]
  exact Server.exists_request_read reachable canSend

theorem AnsweredBy.of_cons {call : Call} {calls : List Call} {request : Http.Request}
    (answered : AnsweredBy serve s
      (((resolver mapping (opened v token)).answers (call :: calls)).run s).2)
    (sent : readFor mapping v token s call = some request) :
    s.answerTo 0 = .ok (serve request.url.target) ∧ ∃ answer s',
      ((resolver mapping (opened v token)).answer call).run s =
        ((answer, resolver mapping (opened v token)), s') ∧ s'.isServed = s.isServed ∧
      AnsweredBy serve s' (((resolver mapping (opened v token)).answers calls).run s').2 := by
  have api_eq : (opened v token).api = (Server.ofSettings v).api := rfl
  obtain ⟨answer, s', run_eq, first⟩ := passage_answer mapping api_eq call s
  obtain ⟨entries, -, rest⟩ := passage_answers mapping api_eq calls s'
  have sent : readFor mapping v (opened v token).token s call = some request := sent
  rw [sent] at first
  rw [Resolver.answers_cons, run_eq] at answered
  obtain ⟨replied, later⟩ := answered.of_passage first rest.requests_eq
  exact ⟨replied, answer, s', run_eq, first.isServed_eq, later⟩

theorem Holds.step {call : Call} {calls : List Call}
    (asks : Stock.Asks mapping (Server.ofSettings v).CanSend (call :: calls))
    (holds : Holds v (resolver mapping (opened v token)) (call :: calls) s stock metadata serve) :
    let answered := ((resolver mapping (opened v token)).answer call).run s
    (∃ id, Stock.ById call id ∧ answered.1.1 = call.answer .vault
        ((Answer.read (mapping.locate id) (serve ("/v1/" ++ mapping.locate id))).bind fun data =>
          Payload.value data v.valueField (mapping.locate id))) ∧
      answered.1.2 = resolver mapping (opened v token) ∧
      Holds v answered.1.2 calls answered.2 stock metadata serve := by
  obtain ⟨id, byId, canSend⟩ := asks.of_cons.1
  have reachable : (Server.ofSettings v).Reachable token := holds.reachable _ rfl
  obtain ⟨request, sent, target_eq⟩ := exists_readFor reachable holds.isServed byId canSend
  obtain ⟨replied, answer, s', run_eq, isServed_eq, later⟩ := holds.answered.of_cons sent
  have location_eq := Stock.location_of_byId byId mapping .vault
  have reply_eq : s.reply? ((Server.ofSettings v).readCall (call.location mapping .vault) token) =
      some (serve ("/v1/" ++ mapping.locate id)) := by
    rw [← target_eq]
    exact Option.bind_eq_some_iff.2
      ⟨request, Scene.request?_of_sent? sent, by rw [replied]; rfl⟩
  refine ⟨⟨id, byId, ?_⟩, ?_, ?_⟩
  · rw [answer_of_reply reply_eq (holds.serves.stands _), location_eq]
  · rw [run_eq]
  · rw [run_eq]
    exact ⟨holds.serves, holds.reachable, isServed_eq.trans holds.isServed, later⟩

theorem answeredBy_of_replies {calls : List Call}
    (asks : Stock.Asks mapping (Server.ofSettings v).CanSend calls)
    (reachable : (Server.ofSettings v).Reachable token) (isServed : s.isServed = true)
    (replies : ∀ i call, calls[i]? = some call →
      s.answerTo i = .ok (serve ("/v1/" ++ call.location mapping .vault))) :
    AnsweredBy serve s (((resolver mapping (opened v token)).answers calls).run s).2 := by
  have sent : ∀ call ∈ calls, ∃ request, readFor mapping v token s call = some request ∧
      request.url.target = "/v1/" ++ call.location mapping .vault := by
    intro call mem
    obtain ⟨id, byId, canSend⟩ := asks call mem
    rw [Stock.location_of_byId byId]
    exact exists_readFor reachable isServed byId canSend
  have all : ∀ call ∈ calls, (readFor mapping v token s call).isSome := by
    intro call mem
    obtain ⟨request, sent, -⟩ := sent call mem
    simp [sent]
  have api_eq : (opened v token).api = (Server.ofSettings v).api := rfl
  obtain ⟨entries, -, passage⟩ := passage_answers mapping api_eq calls s
  intro requests requests_eq i request arrived
  have requests_eq : requests = calls.filterMap (readFor mapping v token s) :=
    List.append_cancel_left (requests_eq.symm.trans passage.requests_eq)
  rw [requests_eq, getElem?_filterMap_of_isSome all] at arrived
  obtain ⟨call, called, asked⟩ := Option.bind_eq_some_iff.1 arrived
  obtain ⟨request', sent, target_eq⟩ := sent call (List.mem_of_getElem? called)
  obtain rfl := Option.some.inj (sent.symm.trans asked)
  rw [target_eq, replies i call called]

theorem answers_of_holds {calls : List Call}
    (asks : Stock.Asks mapping (Server.ofSettings v).CanSend calls)
    (shallow : ∀ name, ∀ written ∈ metadata name, written.depth ≤ 125)
    (holds : Holds v (resolver mapping (opened v token)) calls s stock metadata serve) :
    List.Forall₂ (stock.Answers mapping) calls
      (((resolver mapping (opened v token)).answers calls).run s).1.1 := by
  let Inv (calls : List Call) (r : Resolver (StateM Scene)) (s : Scene) : Prop :=
    Stock.Asks mapping (Server.ofSettings v).CanSend calls ∧ r = resolver mapping (opened v token) ∧
      Holds v r calls s stock metadata serve
  have inv : Inv calls (resolver mapping (opened v token)) s := ⟨asks, rfl, holds⟩
  refine Resolver.forall₂_answers ?_ inv
  rintro call calls _ s ⟨asks, rfl, holds⟩
  obtain ⟨⟨id, byId, answer_eq⟩, kept, later⟩ := holds.step asks
  rw [answer_eq]
  exact ⟨Stock.answers_of_finds byId (finds_read holds.serves shallow _) .vault,
    asks.of_cons.2, kept, later⟩

end

end Vault

end

section

-- One secret, beside metadata that is nested as deep as one likes.

namespace Json

def nest : Nat → Json
  | 0 => .array []
  | n + 1 => .array [nest n]

def brackets : Nat → List Char
  | 0 => ['[', ']']
  | n + 1 => '[' :: (brackets n ++ [']'])

def quoted (text : List Char) : List Char :=
  '"' :: (text ++ ['"'])

def written (key : String) (value : List Char) : List Char :=
  quoted key.toList ++ ':' :: value

def braced (inside : List Char) : List Char :=
  '{' :: (inside ++ ['}'])

def Plain (text : List Char) : Prop :=
  ∀ c ∈ text, 0x20 ≤ c.toNat ∧ c ≠ '"' ∧ c ≠ '\\'

instance (text : List Char) : Decidable (Plain text) :=
  List.decidableBAll _ _

theorem depth_nest (n : Nat) : (nest n).depth = n + 1 := by
  induction n with
  | zero => rfl
  | succ n ih => simp [nest, depth, itemsDepth, ih]

theorem blank_nil : Blank [] := by
  simp [Blank]

theorem writesPadded_of_writes {text : List Char} {value : Json} (writes : Writes text value) :
    WritesPadded text value := by
  simpa using WritesPadded.pad blank_nil writes blank_nil

theorem writes_brackets (n : Nat) : Writes (brackets n) (nest n) := by
  induction n with
  | zero => exact .noItems blank_nil
  | succ n ih => exact .items (.last (writesPadded_of_writes ih))

theorem spellsText_of_plain {text : List Char} (plain : Plain text) : SpellsText text text := by
  induction text with
  | nil => exact .nil
  | cons c text ih =>
    obtain ⟨⟨printable, unquoted, unescaped⟩, rest⟩ := List.forall_mem_cons.1 plain
    exact .cons (.plain printable unquoted unescaped) (ih rest)

theorem writes_quoted {text : List Char} {value : String} (spells : SpellsText text value.toList) :
    Writes (quoted text) (.string value) :=
  .string spells

theorem writesMember_written {key : String} {text : List Char} {value : Json}
    (plain : Plain key.toList) (writes : Writes text value) :
    WritesMember (written key text) (key, value) := by
  simpa [written, quoted] using WritesMember.pair blank_nil (spellsText_of_plain plain)
    blank_nil (writesPadded_of_writes writes)

end Json

open Json (braced written quoted brackets nest)

def oneSecret : Stock where
  entries := [("NAME", "é")]
  distinct := by decide
  nameable := by decide
  textual := by decide

def environmentScene : Scene where
  environment := [("NAME", "é".toUTF8)]
  log := [Resolver.creating { mapping := .byId, store := .environment }]

def escaped : List Char :=
  ['\\', 'u', '0', '0', 'e', '9']

def escapedFile : List Char :=
  braced (written "NAME" (quoted escaped))

def fileScene : Scene where
  files :=
    { working := ["work"]
      nodes := [(["run"], .directory),
        (["run", "secrets"], .file (String.ofList escapedFile).toUTF8)] }
  log := [Resolver.creating { mapping := .byId, store := .jsonFile "/run/secrets" }]

def deepBody (n : Nat) : List Char :=
  braced (written "data" (braced (written "metadata" (brackets n) ++
    ',' :: written "data" (braced (written "value" (quoted "é".toList))))))

def serveDeep (n : Nat) (target : String) : Http.Reply :=
  if target = "/v1/NAME" then
    { status := 200, body := .whole (String.ofList (deepBody n)).toUTF8.data.toList }
  else
    { status := 404, body := .cut }

def plainVault : VaultSettings where
  host := "http://vault.test/"
  credentials := .token ⟨"token"⟩

def vaultScene (n : Nat) (calls : List Call) : Scene where
  replies := some (calls.map fun call =>
    .ok (serveDeep n ("/v1/" ++ call.location .byId .vault)))
  log := [Resolver.creating { mapping := .byId, store := .vault plainVault },
    Vault.authenticating plainVault 1, Vault.authenticated plainVault]

theorem made_environmentScene : Resolver.Made { mapping := .byId, store := .environment }
    (Environment.resolver .byId) environmentScene :=
  ⟨{ environmentScene with log := [] }, rfl⟩

theorem made_fileScene : Resolver.Made { mapping := .byId, store := .jsonFile "/run/secrets" }
    (SecretsFile.holding .byId "/run/secrets" none) fileScene :=
  ⟨{ fileScene with log := [] }, rfl⟩

theorem value?_oneSecret (name : String) :
    oneSecret.value? name = if name = "NAME" then some "é" else none := by
  by_cases named : name = "NAME"
  · simp [Stock.value?, oneSecret, named]
  · simp [Stock.value?, oneSecret, List.lookup_cons, named, beq_eq_false_iff_ne.2 named]

theorem environmentScene_holds : Environment.Holds environmentScene oneSecret :=
  .refl _

theorem fileScene_holds : SecretsFile.Holds fileScene "/run/secrets" oneSecret := by
  have digits : Json.Hex4 ['0', '0', 'e', '9'] 'é'.toNat :=
    .digits (i := 0) (j := 0) (k := 14) (l := 9) (.inl rfl) (.inl rfl) (.inl rfl) (.inl rfl)
  have spells : Json.SpellsText escaped "é".toList := .cons (.unit digits) .nil
  have value : Json.WritesMember (written "NAME" (quoted escaped)) ("NAME", .string "é") :=
    Json.writesMember_written (by decide) (Json.writes_quoted spells)
  refine ⟨String.ofList escapedFile, oneSecret.entries, by decide +kernel, .refl _, ?_⟩
  rw [String.toList_ofList]
  exact Json.writesPadded_of_writes (.members (.last value))

theorem writes_deepBody (n : Nat) : Json.Writes (deepBody n) (.object [("data",
    .object [("metadata", nest n), ("data", .object [("value", .string "é")])])]) := by
  have value : Json.WritesMember (written "value" (quoted "é".toList)) ("value", .string "é") :=
    Json.writesMember_written (by decide)
      (Json.writes_quoted (Json.spellsText_of_plain (by decide)))
  have data : Json.WritesMember (written "data" (braced (written "value" (quoted "é".toList))))
      ("data", .object [("value", .string "é")]) :=
    Json.writesMember_written (by decide) (.members (.last value))
  have metadata : Json.WritesMember (written "metadata" (brackets n)) ("metadata", nest n) :=
    Json.writesMember_written (by decide) (Json.writes_brackets n)
  exact .members (.last (Json.writesMember_written (by decide)
    (.members (.more metadata (.last data)))))

theorem serveDeep_serves {n : Nat}
    (small : (String.ofList (deepBody n)).utf8ByteSize < Libraries.bodyLimit) :
    Vault.Serves (serveDeep n) "value" oneSecret fun _ => some (nest n) := by
  constructor
  · intro name value held
    rw [value?_oneSecret] at held
    by_cases named : name = "NAME"
    · rw [if_pos named] at held
      obtain rfl := Option.some.inj held
      subst named
      refine ⟨rfl, String.ofList (deepBody n), _, rfl, .metadataFirst (nest n), ?_, small⟩
      rw [String.toList_ofList]
      exact Json.writesPadded_of_writes (writes_deepBody n)
    · simp [named] at held
  · intro name missing
    have elsewhere : "/v1/" ++ name ≠ "/v1/NAME" := by
      intro same
      have named : name = "NAME" := by simpa [← String.toList_inj] using same
      simp [value?_oneSecret, named] at missing
    simp [serveDeep, elsewhere]

theorem plainVault_reachable : (Vault.Server.ofSettings plainVault).Reachable ⟨"token"⟩ where
  host := ⟨"http://".toList, "vault.test".toList, ['/'], by decide, .inl (by decide), by decide,
    fun _ => List.mem_singleton.1⟩
  token := by decide
  tenant := by decide

theorem vaultScene_holds {n : Nat} {calls : List Call}
    (small : (String.ofList (deepBody n)).utf8ByteSize < Libraries.bodyLimit)
    (asks : Stock.Asks .byId (Vault.Server.ofSettings plainVault).CanSend calls) :
    Vault.Holds plainVault (Vault.resolver .byId (Vault.opened plainVault ⟨"token"⟩)) calls
      (vaultScene n calls) oneSecret (fun _ => some (nest n)) (serveDeep n) where
  serves := serveDeep_serves small
  reachable := by
    intro session held
    rw [← Store.vault.inj held]
    exact plainVault_reachable
  isServed := rfl
  answered := by
    apply Vault.answeredBy_of_replies asks plainVault_reachable rfl
    intro i call called
    simp [Scene.answerTo, vaultScene, called]

theorem made_plainVault (n : Nat) (calls : List Call) :
    Resolver.Made { mapping := .byId, store := .vault plainVault }
      (Vault.resolver .byId (Vault.opened plainVault ⟨"token"⟩)) (vaultScene n calls) := by
  have valid : Settings.check { mapping := .byId, store := .vault plainVault } = .ok () := by decide
  have setup := Resolver.isSetup_ofSettings (m := StateM Scene) valid
  refine ⟨{ vaultScene n calls with log := [] }, ?_⟩
  rw [setup]
  rfl

def fewCalls : List Call :=
  [.get "NAME", .getString "NAME", .get "OTHER"]

theorem locate_byId (id : String) : Template.byId.locate id = id := by
  have pieces_eq : Template.byId.pieces = [.id] := rfl
  simp [Template.locate, pieces_eq, Template.fill, Template.Piece.fill]

def CanAsk (location : String) : Prop :=
  (Vault.Server.ofSettings plainVault).CanSend location ∧ oneSecret.Unmistaken location

theorem asks_fewCalls {calls : List Call} (few : calls ⊆ fewCalls) :
    Stock.Asks .byId CanAsk calls := by
  have name : CanAsk "NAME" :=
    ⟨⟨by decide, by decide, by decide, by decide +kernel⟩, by unfold Stock.Unmistaken; decide⟩
  have other : CanAsk "OTHER" :=
    ⟨⟨by decide, by decide, by decide, by decide +kernel⟩, by unfold Stock.Unmistaken; decide⟩
  intro call mem
  have mem := few mem
  simp only [fewCalls, List.mem_cons, List.not_mem_nil, or_false] at mem
  rcases mem with rfl | rfl | rfl
  · exact ⟨_, .get _, by rwa [locate_byId]⟩
  · exact ⟨_, .getString _, by rwa [locate_byId]⟩
  · exact ⟨_, .get _, by rwa [locate_byId]⟩

end

namespace Resolver

open Json (nest)

theorem stores_interchangeable [Libraries] (stock : Stock) (mapping : Template) (calls : List Call)
    (path : String) (v : VaultSettings) (metadata : String → Option Json)
    (serve : String → Http.Reply) (r r' r'' : Resolver (StateM Scene)) (s s' s'' : Scene)
    (madeOfEnvironment : Made { mapping, store := .environment } r s)
    (madeOfFile : Made { mapping, store := .jsonFile path } r' s')
    (madeOfVault : Made { mapping, store := .vault v } r'' s'')
    (asks : Stock.Asks mapping (fun location =>
      (Vault.Server.ofSettings v).CanSend location ∧ stock.Unmistaken location) calls)
    (inEnvironment : Environment.Holds s stock) (inFile : SecretsFile.Holds s' path stock)
    (inVault : Vault.Holds v r'' calls s'' stock metadata serve)
    (shallow : ∀ name, ∀ written ∈ metadata name, written.depth ≤ 125) :
    List.Forall₂ (stock.Answers mapping) calls ((r.answers calls).run s).1.1 ∧
      List.Forall₂ (stock.Answers mapping) calls ((r'.answers calls).run s').1.1 ∧
      List.Forall₂ (stock.Answers mapping) calls ((r''.answers calls).run s'').1.1 := by
  obtain rfl := Environment.eq_of_made madeOfEnvironment
  obtain rfl := SecretsFile.eq_of_made madeOfFile
  obtain ⟨token, rfl⟩ := Vault.exists_eq_of_made madeOfVault
  exact ⟨Environment.answers_of_holds (asks.mono fun _ => And.right) inEnvironment,
    SecretsFile.answers_of_holds asks inFile,
    Vault.answers_of_holds (asks.mono fun _ => And.left) shallow inVault⟩

theorem stores_interchangeable_deepest :
    let r := Environment.resolver .byId
    let r' := SecretsFile.holding .byId "/run/secrets" none
    let r'' := Vault.resolver .byId (Vault.opened plainVault ⟨"token"⟩)
    let s'' := vaultScene 124 fewCalls
    Made { mapping := .byId, store := .environment } r environmentScene ∧
      Made { mapping := .byId, store := .jsonFile "/run/secrets" } r' fileScene ∧
      Made { mapping := .byId, store := .vault plainVault } r'' s'' ∧
      Stock.Asks .byId CanAsk fewCalls ∧
      Environment.Holds environmentScene oneSecret ∧
      SecretsFile.Holds fileScene "/run/secrets" oneSecret ∧
      Vault.Holds plainVault r'' fewCalls s'' oneSecret (fun _ => some (nest 124))
        (serveDeep 124) ∧
      (∀ written ∈ some (nest 124), written.depth ≤ 125) ∧
      List.Forall₂ (oneSecret.Answers .byId) fewCalls
        ((r.answers fewCalls).run environmentScene).1.1 ∧
      List.Forall₂ (oneSecret.Answers .byId) fewCalls ((r'.answers fewCalls).run fileScene).1.1 ∧
      List.Forall₂ (oneSecret.Answers .byId) fewCalls ((r''.answers fewCalls).run s'').1.1 := by
  intro r r' r'' s''
  have asks := asks_fewCalls (List.Subset.refl fewCalls)
  have small : (String.ofList (deepBody 124)).utf8ByteSize < Libraries.bodyLimit := by
    decide +kernel
  have inVault := vaultScene_holds small (asks.mono fun _ => And.left)
  have shallow : ∀ written ∈ some (nest 124), written.depth ≤ 125 := by
    intro written mem
    rw [← Option.mem_some.1 mem]
    exact (Json.depth_nest 124).le
  refine ⟨made_environmentScene, made_fileScene, made_plainVault 124 fewCalls, asks,
    environmentScene_holds, fileScene_holds, inVault, shallow, ?_⟩
  exact stores_interchangeable oneSecret .byId fewCalls "/run/secrets" plainVault _ _ r r' r'' _ _
    s'' made_environmentScene made_fileScene (made_plainVault 124 fewCalls) asks
    environmentScene_holds fileScene_holds inVault fun _ => shallow

theorem deep_metadata_hides_value :
    let r := Environment.resolver .byId
    let r' := SecretsFile.holding .byId "/run/secrets" none
    let r'' := Vault.resolver .byId (Vault.opened plainVault ⟨"token"⟩)
    let calls := [Call.get "NAME"]
    let s'' := vaultScene 125 calls
    Made { mapping := .byId, store := .environment } r environmentScene ∧
      Made { mapping := .byId, store := .jsonFile "/run/secrets" } r' fileScene ∧
      Made { mapping := .byId, store := .vault plainVault } r'' s'' ∧
      Stock.Asks .byId CanAsk calls ∧
      Environment.Holds environmentScene oneSecret ∧
      SecretsFile.Holds fileScene "/run/secrets" oneSecret ∧
      Vault.Holds plainVault r'' calls s'' oneSecret (fun _ => some (nest 125)) (serveDeep 125) ∧
      ¬ List.Forall₂ (oneSecret.Answers .byId) calls ((r''.answers calls).run s'').1.1 := by
  intro r r' r'' calls s''
  have asks : Stock.Asks .byId CanAsk calls := asks_fewCalls (by simp [calls, fewCalls])
  have canSend := asks.mono fun _ => And.left
  have small : (String.ofList (deepBody 125)).utf8ByteSize < Libraries.bodyLimit := by
    decide +kernel
  have inVault := vaultScene_holds small canSend
  refine ⟨made_environmentScene, made_fileScene, made_plainVault 125 calls, asks,
    environmentScene_holds, fileScene_holds, inVault, ?_⟩
  have held : oneSecret.value? "NAME" = some "é" := by rw [value?_oneSecret, if_pos rfl]
  have gives := inVault.serves.found "NAME" "é" held
  obtain ⟨problem, unread⟩ :=
    Vault.read_of_deep gives (by rw [Json.depth_nest]; decide) "NAME"
  obtain ⟨⟨_, ⟨⟩, answer_eq⟩, -⟩ := inVault.step canSend
  rw [locate_byId, unread] at answer_eq
  rw [answers_cons, List.forall₂_cons, answer_eq]
  rintro ⟨right, -⟩
  cases right with
  | noBytes missing => simp [locate_byId, held] at missing

end Resolver

end SecretResolver
