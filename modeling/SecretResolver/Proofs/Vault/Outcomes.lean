import SecretResolver.Proofs.Json.Lexemes
import SecretResolver.Proofs.Vault.Decoding
import SecretResolver.Proofs.Vault.Discipline

set_option autoImplicit false

namespace SecretResolver

open Http (Reply)

section

variable [Libraries]

namespace Http.Reply

def Success (reply : Reply) : Prop :=
  200 ≤ reply.status ∧ reply.status < 300

-- What is sent beyond the limit is not read, and such a body counts as one that was cut off.
inductive Holds (reply : Reply) : List UInt8 → Prop where
  | whole {bytes : List UInt8} (from200 : 200 ≤ reply.status)
      (status_ne : reply.status ≠ 204 ∧ reply.status ≠ 304) (body_eq : reply.body = .whole bytes)
      (within : bytes.length < Libraries.bodyLimit) : Holds reply bytes
  | bodiless (status : reply.status < 200 ∨ reply.status = 204 ∨ reply.status = 304) :
      Holds reply []

def Carries {α : Type} (Decodes : List UInt8 → α → Prop) (reply : Reply) (value : α) : Prop :=
  ∃ bytes, reply.Holds bytes ∧ Decodes bytes value

omit [Libraries] in
theorem success_iff {reply : Reply} : reply.isSuccess = true ↔ reply.Success := by
  simp [isSuccess, Success]

theorem content?_eq_some_iff {reply : Reply} {bytes : List UInt8} :
    reply.content? = some bytes ↔ reply.Holds bytes := by
  unfold content?
  cases hasBody : reply.hasBody with
  | false =>
    have status : reply.status < 200 ∨ reply.status = 204 ∨ reply.status = 304 := by
      simp [Reply.hasBody] at hasBody
      omega
    constructor
    · rintro ⟨⟩
      exact .bodiless status
    · intro holds
      cases holds with
      | whole from200 status_ne _ _ => omega
      | bodiless _ => rfl
  | true =>
    have status : 200 ≤ reply.status ∧ reply.status ≠ 204 ∧ reply.status ≠ 304 := by
      simpa [Reply.hasBody, and_assoc] using hasBody
    constructor
    · intro content
      cases body_eq : reply.body with
      | whole bytes' =>
        simp only [body_eq, Bool.not_true, Bool.false_eq_true, if_false] at content
        split at content
        · next within =>
          cases content
          exact .whole status.1 status.2 body_eq within
        · cases content
      | cut => simp [body_eq] at content
    · intro holds
      cases holds with
      | whole _ _ body_eq within => simp [body_eq, within]
      | bodiless status' => omega

theorem bind_content?_eq_some_iff {α : Type} {decode : List UInt8 → Option α}
    {Decodes : List UInt8 → α → Prop}
    (decodes : ∀ bytes value, decode bytes = some value ↔ Decodes bytes value) {reply : Reply}
    {value : α} : reply.content?.bind decode = some value ↔ reply.Carries Decodes value := by
  simp [Option.bind_eq_some_iff, Carries, content?_eq_some_iff, decodes]

end Http.Reply

-- the reply to a call, where the server gives one
def Scene.reply? (s : Scene) (call : Http.Call) : Option Reply :=
  call.request?.bind fun _ => (s.answerTo 0).toOption

namespace Vault

namespace Server

variable {call : Http.Call} {s : Scene}

theorem exchange_of_reply {reply : Reply} (replied : s.reply? call = some reply) :
    ((exchange call : StateM Scene _).run s).1 = reply.settled.mapError transportFault := by
  obtain ⟨request, sendable, answered⟩ := Option.bind_eq_some_iff.1 replied
  rw [run_exchange sendable]
  cases given : s.answerTo 0 with
  | error problem =>
    rw [given] at answered
    cases answered
  | ok reply' =>
    rw [given] at answered
    cases answered
    rfl

theorem exchange_of_no_reply (unanswered : s.reply? call = none) :
    ∃ problem, ((exchange call : StateM Scene _).run s).1 = .error (fault problem) := by
  cases sendable : call.request? with
  | none =>
    rw [run_exchange_of_not_sendable sendable]
    exact ⟨_, rfl⟩
  | some request =>
    simp only [Scene.reply?, sendable, Option.bind_some] at unanswered
    rw [run_exchange sendable]
    cases given : s.answerTo 0 with
    | error problem => exact ⟨_, rfl⟩
    | ok reply =>
      rw [given] at unanswered
      cases unanswered

end Server

namespace Answer

inductive IsDetail (reply : Reply) : String → Prop where
  | errors {errors : List String} (carries : reply.Carries HasErrors errors)
      (given : errors ≠ []) : IsDetail reply ("; ".intercalate errors)
  | noDetails (without : ∀ errors, reply.Carries HasErrors errors → errors = []) :
      IsDetail reply "no details"

-- A redirect that cannot be followed is no reply of the server's own.
def Stands (reply : Reply) : Prop :=
  Libraries.redirectComplaint? reply.status = none

theorem stands_of_status {reply : Reply} (status : reply.status < 300 ∨ 400 ≤ reply.status) :
    Stands reply := by
  unfold Stands
  cases redirect : Libraries.redirectComplaint? reply.status with
  | none => rfl
  | some complaint =>
    have within := Libraries.status_of_redirect redirect
    omega

structure ReadOutcome (path : String) (reply? : Option Reply) (outcome : Except Failure Json) :
    Prop where
  ok_iff : ∀ data, outcome = .ok data ↔
    ∃ reply ∈ reply?, reply.Success ∧ reply.Carries HasData (some data)
  notFound_iff : (∃ what, outcome = .error (.notFound what)) ↔
    ∃ reply ∈ reply?, reply.status = 404 ∨ reply.Success ∧ reply.Carries HasData none
  accessDenied_iff : (∃ what, outcome = .error (.accessDenied what)) ↔
    ∃ reply ∈ reply?, reply.status = 403
  fetch_iff : (∃ problem, outcome = .error (.fetch "vault" problem)) ↔
    ∀ reply ∈ reply?, reply.status ≠ 404 ∧ reply.status ≠ 403 ∧
      (reply.Success → ∀ data, ¬ reply.Carries HasData data)
  denied : ∀ reply ∈ reply?, reply.status = 403 → ∃ detail, IsDetail reply detail ∧
    outcome = .error (.accessDenied s!"vault path '{path}': {detail}")
  failed : ∀ reply ∈ reply?, Stands reply → ¬ reply.Success → reply.status ≠ 404 →
    reply.status ≠ 403 → ∃ detail, IsDetail reply detail ∧
      outcome = .error (.fetch "vault" s!"read of '{path}' failed ({reply.status}): {detail}")
  redirected : ∀ reply ∈ reply?, ∀ complaint,
    Libraries.redirectComplaint? reply.status = some complaint →
      outcome = .error (.fetch "vault" s!"request failed: {complaint}")

structure LoginOutcome (mount : String) (reply? : Option Reply)
    (outcome : Except Failure Secret) : Prop where
  ok_iff : ∀ token, outcome = .ok token ↔ token.expose ≠ "" ∧
    ∃ reply ∈ reply?, reply.Success ∧ reply.Carries HasToken (some token)
  fetch_iff : (∃ problem, outcome = .error (.fetch "vault" problem)) ↔
    ∀ reply ∈ reply?, reply.Success →
      ∀ token, reply.Carries HasToken (some token) → token.expose = ""
  rejected : ∀ reply ∈ reply?, Stands reply → ¬ reply.Success →
    ∃ detail, IsDetail reply detail ∧ outcome = .error
      (.fetch "vault" s!"login via auth/{mount} rejected ({reply.status}): {detail}")
  redirected : ∀ reply ∈ reply?, ∀ complaint,
    Libraries.redirectComplaint? reply.status = some complaint →
      outcome = .error (.fetch "vault" s!"request failed: {complaint}")

theorem isDetail_detail (reply : Reply) : IsDetail reply (detail reply) := by
  have carries {errors : List String} : reply.content?.bind errors? = some errors ↔
      reply.Carries HasErrors errors :=
    Reply.bind_content?_eq_some_iff fun _ _ => errors?_eq_some_iff
  unfold detail
  split
  · next undecoded =>
    exact .noDetails fun errors carried => by simp [carries.2 carried] at undecoded
  · next decoded =>
    exact .noDetails fun errors carried => by simpa [carries.2 carried] using decoded
  · next errors given decoded => exact .errors (carries.1 decoded) given

theorem readWith_cases {α : Type} (what : String) (decode : List UInt8 → Option α)
    (reply : Reply) :
    (reply.content?.bind decode = none ∧
      ∃ problem, readWith what decode reply = .error (fault problem)) ∨
    ∃ value, reply.content?.bind decode = some value ∧ readWith what decode reply = .ok value := by
  unfold readWith
  cases reply.content? with
  | none => exact .inl ⟨rfl, _, rfl⟩
  | some bytes =>
    simp only [Option.bind_some]
    cases decode bytes with
    | none => exact .inl ⟨rfl, _, rfl⟩
    | some value => exact .inr ⟨value, rfl, rfl⟩

theorem readOutcome_unanswered (path problem : String) :
    ReadOutcome path none (.error (fault problem)) := by
  constructor <;> simp [fault, StoreKind.name]

theorem loginOutcome_unanswered (mount problem : String) :
    LoginOutcome mount none (.error (fault problem)) := by
  constructor <;> simp [fault, StoreKind.name]

theorem readOutcome_redirected (path : String) {reply : Reply} {complaint : String}
    (redirect : Libraries.redirectComplaint? reply.status = some complaint) :
    ReadOutcome path (some reply) (.error (Server.transportFault complaint)) := by
  obtain ⟨from300, below400⟩ := Libraries.status_of_redirect redirect
  have missing : reply.status ≠ 404 := by omega
  have denied : reply.status ≠ 403 := by omega
  have failed : ¬ reply.Success := fun success => by have := success.2; omega
  constructor <;>
    simp [Server.transportFault, fault, StoreKind.name, Stands, redirect, missing, denied, failed]

theorem loginOutcome_redirected (mount : String) {reply : Reply} {complaint : String}
    (redirect : Libraries.redirectComplaint? reply.status = some complaint) :
    LoginOutcome mount (some reply) (.error (Server.transportFault complaint)) := by
  obtain ⟨from300, -⟩ := Libraries.status_of_redirect redirect
  have failed : ¬ reply.Success := fun success => by have := success.2; omega
  constructor <;>
    simp [Server.transportFault, fault, StoreKind.name, Stands, redirect, failed]

theorem readOutcome_read (path : String) {reply : Reply} (stands : Stands reply) :
    ReadOutcome path (some reply) (read path reply) := by
  have isDetail : ∃ text, IsDetail reply text ∧ toString (detail reply) = toString text :=
    ⟨_, isDetail_detail reply, rfl⟩
  have success_iff : reply.isSuccess = true ↔ reply.Success := Reply.success_iff
  unfold Stands at stands
  by_cases missing : reply.status = 404
  · have failed : ¬ reply.Success := by simp [Reply.Success, missing]
    have stays : Libraries.redirectComplaint? 404 = none := missing ▸ stands
    constructor <;> simp [read, missing, failed, stays]
  by_cases denied : reply.status = 403
  · have failed : ¬ reply.Success := by simp [Reply.Success, denied]
    have stays : Libraries.redirectComplaint? 403 = none := denied ▸ stands
    constructor <;> simp [read, denied, failed, stays]
    exact isDetail
  by_cases success : reply.Success
  · have carries (data : Option Json) :
        reply.content?.bind data? = some data ↔ reply.Carries HasData data :=
      Reply.bind_content?_eq_some_iff fun _ _ => data?_eq_some_iff
    obtain ⟨undecoded, problem, readWith_eq⟩ | ⟨data, decoded, readWith_eq⟩ :=
      readWith_cases "read" data? reply
    · constructor <;>
        simp [read, success_iff.2 success, readWith_eq, missing, denied, success, ← carries,
          undecoded, fault, StoreKind.name, stands]
    · cases data <;> constructor <;>
        simp [read, success_iff.2 success, readWith_eq, missing, denied, success, ← carries,
          decoded, stands]
  · have failed : reply.isSuccess = false := by simpa [← success_iff] using success
    constructor <;>
      simp [read, missing, denied, failed, success, fault, StoreKind.name, Stands, stands]
    exact isDetail

theorem loginOutcome_login (mount : String) {reply : Reply} (stands : Stands reply) :
    LoginOutcome mount (some reply) (login mount reply) := by
  have success_iff : reply.isSuccess = true ↔ reply.Success := Reply.success_iff
  unfold Stands at stands
  by_cases success : reply.Success
  · have carries (token : Option Secret) :
        reply.content?.bind token? = some token ↔ reply.Carries HasToken token :=
      Reply.bind_content?_eq_some_iff fun _ _ => token?_eq_some_iff
    obtain ⟨undecoded, problem, readWith_eq⟩ | ⟨token, decoded, readWith_eq⟩ :=
      readWith_cases "login" token? reply
    · constructor <;>
        simp [login, success_iff.2 success, readWith_eq, success, ← carries, undecoded, fault,
          StoreKind.name, stands]
    · cases token with
      | none =>
        constructor <;>
          simp [login, success_iff.2 success, readWith_eq, success, ← carries, decoded, fault,
            StoreKind.name, stands]
      | some token =>
        by_cases empty : token.expose = "" <;> constructor <;>
          simp [login, success_iff.2 success, readWith_eq, success, ← carries, decoded, fault,
            StoreKind.name, Secret.isEmpty, empty, stands]
        rintro other given rfl
        exact given empty
  · have failed : reply.isSuccess = false := by simpa [← success_iff] using success
    have isDetail : ∃ text, IsDetail reply text ∧ toString (detail reply) = toString text :=
      ⟨_, isDetail_detail reply, rfl⟩
    constructor <;> simp [login, failed, success, fault, StoreKind.name, Stands, stands]
    exact isDetail

theorem readOutcome_run (server : Server) (s : Scene) (path : String) (token : Secret) :
    ReadOutcome path (s.reply? (server.readCall path token))
      ((server.api.read path token : StateM Scene _).run s).1 := by
  rw [run_read]
  cases replied : s.reply? (server.readCall path token) with
  | none =>
    obtain ⟨problem, exchange_eq⟩ := Server.exchange_of_no_reply replied
    rw [exchange_eq]
    exact readOutcome_unanswered path problem
  | some reply =>
    rw [Server.exchange_of_reply replied, Reply.settled]
    cases redirect : Libraries.redirectComplaint? reply.status with
    | none => exact readOutcome_read path redirect
    | some complaint => exact readOutcome_redirected path redirect

theorem loginOutcome_run (server : Server) (s : Scene) (mount : String) (body : Json) :
    LoginOutcome mount (s.reply? (server.loginCall mount body))
      ((server.api.login mount body : StateM Scene _).run s).1 := by
  rw [run_login]
  cases replied : s.reply? (server.loginCall mount body) with
  | none =>
    obtain ⟨problem, exchange_eq⟩ := Server.exchange_of_no_reply replied
    rw [exchange_eq]
    exact loginOutcome_unanswered mount problem
  | some reply =>
    rw [Server.exchange_of_reply replied, Reply.settled]
    cases redirect : Libraries.redirectComplaint? reply.status with
    | none => exact loginOutcome_login mount redirect
    | some complaint => exact loginOutcome_redirected mount redirect

theorem read_and_login_outcomes (server : Server) (s : Scene) :
    (∀ path token, ReadOutcome path (s.reply? (server.readCall path token))
      ((server.api.read path token : StateM Scene _).run s).1) ∧
    ∀ mount body, LoginOutcome mount (s.reply? (server.loginCall mount body))
      ((server.api.login mount body : StateM Scene _).run s).1 :=
  ⟨readOutcome_run server s, loginOutcome_run server s⟩

end Answer

end Vault

end

namespace Vault.Answer

def answering (reply : Reply) : Scene where
  replies := some [.ok reply]

theorem reply?_answering {call : Http.Call} (sendable : call.request?.isSome) (reply : Reply) :
    (answering reply).reply? call = some reply := by
  obtain ⟨request, request_eq⟩ := Option.isSome_iff_exists.1 sendable
  rw [Scene.reply?, request_eq]
  rfl

-- What comes with a switch of protocols is no body, and a body of this length is not read to its
-- end.
def switching : Reply where
  status := 101
  body := .whole "\x7b\"errors\":[\"why\"]\x7d".toUTF8.data.toList

def padded : List UInt8 :=
  List.replicate Libraries.bodyLimit 0x20 ++ "\x7b\"data\":true\x7d".toUTF8.data.toList

theorem body_not_read_at_switch_or_limit :
    let server : Server := { host := "http://vault.test" }
    let outcome (reply : Reply) : Except Failure Json :=
      ((server.api.read "p" ⟨"t"⟩ : StateM Scene _).run (answering reply)).1
    (∃ bytes, switching.body = .whole bytes ∧ HasErrors bytes ["why"]) ∧
      outcome switching = .error (.fetch "vault" "read of 'p' failed (101): no details") ∧
      HasData padded (some (.bool true)) ∧
      ∃ problem, outcome { status := 200, body := .whole padded } =
        .error (.fetch "vault" problem) := by
  intro server outcome
  have sendable : (server.readCall "p" ⟨"t"⟩).request?.isSome := by decide +kernel
  have outcome_of (reply : Reply) : ReadOutcome "p" (some reply) (outcome reply) := by
    have ran := readOutcome_run server (answering reply) "p" ⟨"t"⟩
    rwa [reply?_answering sendable] at ran
  have complains : HasErrors "\x7b\"errors\":[\"why\"]\x7d".toUTF8.data.toList ["why"] :=
    errors?_eq_some_iff.1 (by decide +kernel)
  have carried : HasData padded (some (.bool true)) := by
    have same : Json.Tree.parse padded =
        Json.Tree.parse "\x7b\"data\":true\x7d".toUTF8.data.toList := by
      rw [Json.Tree.parse, padded, Json.Token.scan_replicate_blank, Json.Tree.parse]
    rw [← data?_eq_some_iff, data?, same]
    with_unfolding_all rfl
  refine ⟨⟨_, rfl, complains⟩, ?_, carried, ?_⟩
  · have failed : ¬ switching.Success := fun success => absurd success.1 (by decide)
    obtain ⟨text, detail, outcome_eq⟩ := (outcome_of switching).failed switching rfl
      (stands_of_status (.inl (by decide))) failed (by decide) (by decide)
    rw [outcome_eq]
    cases detail with
    | errors carries _ =>
      obtain ⟨_, holds, told⟩ := carries
      cases holds with
      | whole from200 => exact absurd from200 (by decide)
      | bodiless =>
        have unreadable : errors? [] = none := by decide +kernel
        cases unreadable.symm.trans (errors?_eq_some_iff.2 told)
    | noDetails _ => rfl
  · rw [(outcome_of _).fetch_iff]
    rintro _ ⟨⟩
    refine ⟨by decide, by decide, fun _ data carries => ?_⟩
    obtain ⟨_, holds, -⟩ := carries
    cases holds with
    | whole _ _ body_eq within =>
      cases body_eq
      rw [padded, List.length_append, List.length_replicate] at within
      omega
    | bodiless status => exact absurd status (by decide)

end Vault.Answer

end SecretResolver
