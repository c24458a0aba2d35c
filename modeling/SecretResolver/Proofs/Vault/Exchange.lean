import SecretResolver.Proofs.Scene.Passage
import SecretResolver.Vault.Server

set_option autoImplicit false

namespace SecretResolver

def Http.Request.header? (request : Http.Request) (name : String) : Option String :=
  request.headers.lookup name

def Scene.sent? (s : Scene) (call : Http.Call) : Option Http.Request :=
  if s.isServed then call.request? else none

theorem Scene.request?_of_sent? {s : Scene} {call : Http.Call} {request : Http.Request}
    (sent : s.sent? call = some request) : call.request? = some request := by
  unfold sent? at sent
  split at sent
  · exact sent
  · cases sent

namespace Vault

open Scene (Passage)

theorem Call.of_request? {call : Http.Call} {request : Http.Request}
    (h : call.request? = some request) :
    Http.Url.read call.url = some request.url ∧ request.method = call.method ∧
      request.headers = call.headers ∧ request.body = call.body := by
  obtain ⟨url, read, h⟩ := Option.bind_eq_some_iff.1 h
  split at h
  · cases h
    exact ⟨read, rfl, rfl, rfl⟩
  · cases h

theorem Call.isSome_request? (call : Http.Call) : call.request?.isSome =
    ((Http.Url.read call.url).isSome &&
      call.headers.all fun header => header.2.toList.all Http.isHeaderChar) := by
  unfold Http.Call.request?
  cases Http.Url.read call.url with
  | none => rfl
  | some url =>
    simp only [Option.isSome_some, Bool.true_and, Option.bind_eq_bind, Option.bind_some]
    split
    · next sendable => rw [sendable]; rfl
    · next unsendable => rw [Bool.eq_false_iff.2 unsendable]; rfl

namespace Server

variable [Libraries] {call : Http.Call} {s : Scene}

theorem run_exchange {request : Http.Request} (sendable : call.request? = some request) :
    (exchange call : StateM Scene (Except Failure Http.Reply)).run s =
      (((s.answerTo 0).bind Http.Reply.settled).mapError transportFault,
        (s.exchange request).2) := by
  rw [← Scene.exchange_reply request]
  unfold exchange
  simp only [sendable]
  rfl

theorem run_exchange_of_not_sendable (unsendable : call.request? = none) :
    (exchange call : StateM Scene (Except Failure Http.Reply)).run s =
      (.error (transportFault call.complaint), s) := by
  unfold exchange
  simp only [unsendable]
  rfl

theorem passage_exchange (call : Http.Call) (s : Scene) :
    Passage s ((exchange call : StateM Scene _).run s).2 (s.sent? call).toList [] := by
  unfold Scene.sent?
  cases sendable : call.request? with
  | none =>
    rw [run_exchange_of_not_sendable sendable, ite_self]
    exact Passage.refl s
  | some request =>
    rw [run_exchange sendable]
    cases served : s.isServed with
    | true => exact Passage.exchange served request
    | false =>
      rw [Scene.exchange_of_not_served served]
      exact Passage.refl s

theorem reply_of_exchange {reply : Http.Reply}
    (h : ((exchange call : StateM Scene _).run s).1 = .ok reply) :
    ∃ request, s.sent? call = some request ∧ s.answerTo 0 = .ok reply := by
  cases sendable : call.request? with
  | none =>
    rw [run_exchange_of_not_sendable sendable] at h
    cases h
  | some request =>
    rw [run_exchange sendable] at h
    cases answered : s.answerTo 0 with
    | error problem =>
      rw [answered] at h
      cases h
    | ok reply' =>
      have served : s.isServed := Scene.isServed_of_answerTo answered
      refine ⟨request, by rw [Scene.sent?, if_pos served, sendable], congrArg _ ?_⟩
      rw [answered] at h
      replace h : reply'.settled.mapError transportFault = .ok reply := h
      cases settled : reply'.settled with
      | error problem =>
        rw [settled] at h
        cases h
      | ok reply'' =>
        rw [settled] at h
        cases h
        exact (Http.Reply.settled_eq_ok_iff.1 settled).2

omit [Libraries] in
theorem isSome_request?_loginCall (server : Server) (mount : String) (body body' : Json) :
    (server.loginCall mount body).request?.isSome =
      (server.loginCall mount body').request?.isSome := by
  rw [Call.isSome_request?, Call.isSome_request?]
  rfl

end Server

end Vault

end SecretResolver
