import SecretResolver.Proofs.Scene.Sending
import SecretResolver.Proofs.Settings.Requirements
import SecretResolver.Proofs.Vault.Discipline

set_option autoImplicit false

namespace SecretResolver

theorem Settings.filled_of_check {mapping : Template} {v : VaultSettings}
    (valid : Settings.check { mapping, store := .vault v } = .ok ()) : v.credentials.Filled := by
  have none_found : v.problem? = none := by
    cases found : v.problem? with
    | none => rfl
    | some problem =>
      rw [check, StoreSettings.problem?, found] at valid
      cases valid
  simp only [VaultSettings.problem?, ite_eq_iff, reduceCtorEq, and_false, false_or] at none_found
  obtain ⟨-, -, -, -, no_part⟩ := none_found
  exact Credentials.filled_iff.2
    (Credentials.emptyPart?_eq_none_iff.1 (Option.map_eq_none_iff.1 no_part))

namespace Vault

inductive FilledBody : Credentials → Json → Prop where
  | appId {appId : String} {userId : Secret} (appIdFilled : appId ≠ "")
      (userIdFilled : userId.expose ≠ "") :
      FilledBody (.appId appId userId)
        (.object [("app_id", .string appId), ("user_id", .string userId.expose)])
  | appIdFile {appId path userId : String} (appIdFilled : appId ≠ "")
      (userIdFilled : userId ≠ "") (unpadded : Text.Unpadded userId.toList) :
      FilledBody (.appIdFile appId path)
        (.object [("app_id", .string appId), ("user_id", .string userId)])
  | appRole {roleId : String} (roleIdFilled : roleId ≠ "") :
      FilledBody (.appRole roleId none) (.object [("role_id", .string roleId)])
  | appRoleSecret {roleId : String} {secretId : Secret} (roleIdFilled : roleId ≠ "")
      (secretIdFilled : secretId.expose ≠ "") :
      FilledBody (.appRole roleId (some secretId))
        (.object [("role_id", .string roleId), ("secret_id", .string secretId.expose)])

def IsFilledLogin (credentials : Credentials) (request : Http.Request) : Prop :=
  ∃ body, request.body = some body ∧ FilledBody credentials body

variable [Libraries]

def Session.IsFilled (v : VaultSettings) (session : Session (StateM Scene)) : Prop :=
  session.api = (Server.ofSettings v).api ∧ session.token.expose ≠ ""

theorem Answer.filled_of_login (mount : String) (reply : Http.Reply) :
    IfOk (·.expose ≠ "") (Answer.login mount reply) := by
  unfold Answer.login
  split
  · exact .error _
  · split
    · exact .error _
    · exact .error _
    · next token _ =>
      split
      · exact .error _
      · next filled =>
        apply IfOk.ok
        intro empty
        exact filled (by rw [Secret.isEmpty, empty]; rfl)

section

variable {Sent : Http.Request → Prop} {credentials : Credentials}

theorem sends_exchange {call : Http.Call}
    (allowed : ∀ request, call.request? = some request → Sent request) :
    Sends Sent (fun _ => True)
      (Server.exchange call : StateM Scene (Except Failure Http.Reply)) := by
  intro s
  refine ⟨⟨_, (Server.passage_exchange call s).requests_eq, ?_⟩, trivial⟩
  intro request sent
  exact allowed request (Scene.request?_of_sent? (Option.mem_toList.1 sent))

theorem sends_login (server : Server) (mount : String) {body : Json}
    (filled : FilledBody credentials body) :
    Sends (IsFilledLogin credentials) (IfOk (·.expose ≠ ""))
      (server.api.login mount body : StateM Scene (Except Failure Secret)) := by
  have exchange : Sends (IsFilledLogin credentials) (fun _ => True)
      (Server.exchange (server.loginCall mount body) : StateM Scene _) :=
    sends_exchange fun request sent => ⟨body, (Call.of_request? sent).2.2.2, filled⟩
  apply exchange.map
  intro result _
  have anyReply : IfOk (fun _ => True) result := fun _ _ => trivial
  exact anyReply.bind fun reply _ => Answer.filled_of_login mount reply

omit [Libraries] in
theorem sends_userIdIn (path : String) :
    Sends Sent (IfOk fun userId => userId.expose ≠ "" ∧ Text.Unpadded userId.expose.toList)
      (Session.userIdIn path : StateM Scene (Except Failure Secret)) := by
  apply (Sends.fileText path).map
  intro content _
  have anyText : IfOk (fun _ => True) content := fun _ _ => trivial
  refine anyText.bind fun text _ => ?_
  by_cases empty : Text.trimmed text = ""
  · rw [if_pos empty]
    exact .error _
  · rw [if_neg empty]
    refine .ok ⟨empty, ?_⟩
    rw [Text.trimmed, String.toList_ofList]
    exact Text.unpadded_trim text.toList

theorem sends_authenticate (server : Server) (filled : credentials.Filled) :
    Sends (IsFilledLogin credentials) (IfOk (·.expose ≠ ""))
      (Session.authenticate server.api credentials : StateM Scene (Except Failure Secret)) := by
  cases credentials with
  | token token => exact .pure (.ok filled)
  | appId appId userId => exact sends_login server "app-id" (.appId filled.1 filled.2)
  | appIdFile appId path =>
    refine (sends_userIdIn path).bind fun result read => ?_
    cases result with
    | error failure => exact .pure (.error failure)
    | ok userId =>
      obtain ⟨some_char, unpadded⟩ := read userId rfl
      exact sends_login server "app-id" (.appIdFile filled.1 some_char unpadded)
  | appRole roleId secretId =>
    cases secretId with
    | none => exact sends_login server "approle" (.appRole filled.1)
    | some secretId =>
      exact sends_login server "approle" (.appRoleSecret filled.1 (filled.2 secretId rfl))

end

section

variable {v : VaultSettings} (filled : v.credentials.Filled)
include filled

theorem sends_connect : Sends (IsFilledLogin v.credentials) (IfOk (Session.IsFilled v))
    (Session.connect v (Server.ofSettings v).api :
      StateM Scene (Except Failure (Session (StateM Scene)))) := by
  have attempts (number : UInt32) : Sends (IsFilledLogin v.credentials) (IfOk (·.expose ≠ ""))
      (Session.attempt v (Server.ofSettings v).api number) :=
    (Sends.write _).bind fun _ _ => sends_authenticate (Server.ofSettings v) filled
  refine (Sends.run v.retry attempts).bind fun result good => ?_
  cases result with
  | error failure => exact .pure (.error failure)
  | ok token => exact (Sends.write _).bind fun _ _ => .pure (.ok ⟨rfl, good token rfl⟩)

end

theorem answers_unchanged {v : VaultSettings} {mapping : Template}
    {session : Session (StateM Scene)} (opened : session.api = (Server.ofSettings v).api)
    (calls : List SecretResolver.Call) (s : Scene) :
    (((resolver mapping session).answers calls).run s).1.2 = resolver mapping session := by
  induction calls generalizing s with
  | nil => rfl
  | cons call calls ih =>
    obtain ⟨answer, s', run_eq, -⟩ := passage_answer mapping opened call s
    rw [Resolver.answers_cons, run_eq]
    exact ih s'

structure ShowsFilled (v : VaultSettings) (s : Scene)
    (made : Except Failure (Resolver (StateM Scene)) × Scene) : Prop where
  logins : ∃ logins, made.2.requests = s.requests ++ logins ∧
    ∀ login ∈ logins, IsFilledLogin v.credentials login
  reads : ∀ r, made.1 = .ok r → ∃ session, r.store = .vault session ∧
    session.token.expose ≠ "" ∧ ∀ (calls : List SecretResolver.Call) s',
      ((r.answers calls).run s').1.2 = r ∧ ∃ reads,
        ((r.answers calls).run s').2.requests = s'.requests ++ reads ∧
          ∀ read ∈ reads, read.header? "X-Vault-Token" = some session.token.expose

theorem showsFilled_ofSettings (mapping : Template) (v : VaultSettings) (s : Scene) :
    ShowsFilled v s
      ((Resolver.ofSettings { mapping, store := .vault v } : StateM Scene _).run s) := by
  rw [Resolver.run_ofSettings]
  cases valid : Settings.check { mapping, store := .vault v } with
  | error failure =>
    exact ⟨⟨[], (List.append_nil _).symm, by simp⟩, fun _ ok => by cases ok⟩
  | ok =>
    have connected := sends_connect (Settings.filled_of_check valid)
      (s.record (Resolver.creating { mapping, store := .vault v }))
    simp only [run_openStore]
    generalize (Session.connect v (Server.ofSettings v).api : StateM Scene _).run
      (s.record (Resolver.creating { mapping, store := .vault v })) = result at connected ⊢
    obtain ⟨result, s'⟩ := result
    obtain ⟨logins, good⟩ := connected
    refine ⟨logins, fun r ok => ?_⟩
    cases result with
    | error failure => cases ok
    | ok session =>
      cases ok
      obtain ⟨opened, filled⟩ := good session rfl
      refine ⟨session, rfl, filled, fun calls s' => ⟨answers_unchanged opened calls s', ?_⟩⟩
      obtain ⟨_, -, passage⟩ := passage_answers mapping opened calls s'
      refine ⟨_, passage.requests_eq, fun read sent => ?_⟩
      obtain ⟨call, -, asked⟩ := List.mem_filterMap.1 sent
      exact (isRead_readFor call read asked).token_eq

theorem no_empty_credential_shown :
    (∀ mapping v s, ShowsFilled v s
      ((Resolver.ofSettings { mapping, store := .vault v } : StateM Scene _).run s)) ∧
      ∀ choices s,
        let made := (Resolver.ofDraft (Draft.ofChoices choices) : StateM Scene _).run s
        match (Draft.ofChoices choices).settings with
        | .error failure => made = (.error failure, s)
        | .ok settings => ∀ v, settings.store = .vault v → ShowsFilled v s made := by
  refine ⟨showsFilled_ofSettings, fun choices s => ?_⟩
  intro made
  cases accepted : (Draft.ofChoices choices).settings with
  | error failure =>
    simp only [made, Resolver.ofDraft, accepted]
    rfl
  | ok settings =>
    obtain ⟨mapping, store⟩ := settings
    rintro v rfl
    have same := (Resolver.Makes.ofChoices accepted).eq_ofSettings
    simp only [made, same]
    exact showsFilled_ofSettings mapping v s

end Vault

end SecretResolver
