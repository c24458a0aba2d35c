import SecretResolver.Proofs.Retry.Course
import SecretResolver.Proofs.Vault.Login

set_option autoImplicit false

namespace SecretResolver.Vault

open Scene (Passage)

def authenticating (v : VaultSettings) (number : UInt32) : Log.Entry where
  level := .debug
  message := "Authenticating to vault"
  fields := [("host", v.host), ("method", v.credentials.method), ("attempt", toString number)]

def authenticated (v : VaultSettings) : Log.Entry where
  level := .info
  message := "Authenticated to vault"
  fields := [("host", v.host), ("method", v.credentials.method)]

def authentications (entries : List Log.Entry) : Nat :=
  entries.countP (·.message == "Authenticating to vault")

theorem authentications_append (entries entries' : List Log.Entry) :
    authentications (entries ++ entries') = authentications entries + authentications entries' :=
  List.countP_append

section

variable {σ : Type} [Host (StateM σ)]

theorem run_attempt (api : Api (StateM σ)) (v : VaultSettings) (number : UInt32) (s : σ) :
    (Session.attempt v api number).run s = (Session.authenticate api v.credentials).run
      ((Log.Logger.write (authenticating v number) : StateM σ Unit).run s).2 :=
  rfl

def connectingTo (api : Api (StateM σ)) (v : VaultSettings) (start : σ) :
    Retry.Course σ Secret where
  policy := v.retry
  sleep := Host.sleep
  attempt := Session.attempt v api
  start

theorem run_connect_eq (api : Api (StateM σ)) (v : VaultSettings) (s : σ) :
    (Session.connect v api).run s = match (connectingTo api v s).run with
      | (.error failure, s') => (.error failure, s')
      | (.ok token, s') => (.ok { api, token, valueField := v.valueField },
          ((Log.Logger.write (authenticated v) : StateM σ Unit).run s').2) := by
  have attempts : (v.retry.run Host.sleep (Session.attempt v api) : StateM σ _).run s =
      (connectingTo api v s).run := rfl
  unfold Session.connect
  rw [StateT.run_bind, attempts]
  obtain ⟨result, s'⟩ := (connectingTo api v s).run
  cases result <;> rfl

end

variable [Libraries]

def connecting (v : VaultSettings) (s : Scene) : Retry.Course Scene Secret where
  policy := v.retry
  sleep := Host.sleep
  attempt := Session.attempt v (Server.ofSettings v).api
  start := s

theorem attempted_attempt (v : VaultSettings) (number : UInt32) (s : Scene) : ∃ sent,
    Attempted v s sent [authenticating v number]
      ((Session.attempt v (Server.ofSettings v).api number : StateM Scene _).run s) := by
  have logged := Passage.record s (authenticating v number)
  obtain ⟨sent, attempted⟩ := attempted_authenticate v (s.record (authenticating v number))
  refine ⟨sent, ?_⟩
  have run_eq : (Session.attempt v (Server.ofSettings v).api number : StateM Scene _).run s =
      (Session.authenticate (Server.ofSettings v).api v.credentials : StateM Scene _).run
        (s.record (authenticating v number)) := run_attempt _ v number s
  rw [run_eq]
  exact
    { passage := logged.trans attempted.passage
      isLogin := attempted.isLogin
      granted := fun token ok => (attempted.granted token ok).of_passage logged }

theorem passage_pause (v : VaultSettings) (s s' : Scene) (number : Nat) (failure : Failure) :
    Passage s' (((connecting v s).pause number failure).run s').2 []
      [v.retry.warning number failure] :=
  (Passage.record s' (v.retry.warning number failure)).trans (Passage.sleep _)

structure Attempts (v : VaultSettings) (s s' : Scene) (sent : List (Option Http.Request))
    (entries : List Log.Entry) : Prop where
  passage : Passage s s' (sent.filterMap id) entries
  authentications_eq : authentications entries = sent.length
  isLogin : ∀ request ∈ sent.filterMap id, IsLogin v request

theorem Attempts.snoc {v : VaultSettings} {s s' : Scene} {sent : List (Option Http.Request)}
    {entries : List Log.Entry} {next : Option Http.Request} {number : UInt32}
    {result : Except Failure Secret × Scene} (attempts : Attempts v s s' sent entries)
    (attempted : Attempted v s' next [authenticating v number] result) :
    Attempts v s result.2 (sent ++ [next]) (entries ++ [authenticating v number]) ∧
      ∀ token, result.1 = .ok token →
        IsSessionToken v s ((sent ++ [next]).filterMap id) token := by
  have requests_eq : (sent ++ [next]).filterMap id = sent.filterMap id ++ next.toList := by
    rw [List.filterMap_append]
    cases next <;> rfl
  refine ⟨⟨?_, ?_, ?_⟩, ?_⟩
  · rw [requests_eq]
    exact attempts.passage.trans attempted.passage
  · rw [authentications_append, attempts.authentications_eq, List.length_append]
    rfl
  · intro request mem
    rw [requests_eq] at mem
    rcases List.mem_append.1 mem with mem | mem
    · exact attempts.isLogin request mem
    · exact attempted.isLogin request (Option.mem_toList.1 mem)
  · intro token ok
    rw [requests_eq]
    exact (attempted.granted token ok).of_passage attempts.passage

theorem exists_attempts_stateAfter (v : VaultSettings) (s : Scene) {n : Nat}
    (failed : ∀ i < n, ∃ failure, ((connecting v s).outcome i).1 = .error failure) :
    ∃ sent entries, sent.length = n ∧
      Attempts v s ((connecting v s).stateAfter n) sent entries := by
  induction n with
  | zero => exact ⟨[], [], rfl, Passage.refl s, rfl, by simp⟩
  | succ n ih =>
    obtain ⟨sent, entries, length_eq, attempts⟩ :=
      ih fun i less => failed i (Nat.lt_succ_of_lt less)
    obtain ⟨failure, last⟩ := failed n (Nat.lt_succ_self n)
    obtain ⟨next, attempted⟩ := attempted_attempt v (UInt32.ofNat (n + 1))
      ((connecting v s).stateAfter n)
    obtain ⟨attempts, -⟩ := attempts.snoc attempted
    have paused := passage_pause v s ((connecting v s).outcome n).2 (n + 1) failure
    refine ⟨sent ++ [next], entries ++ [authenticating v (UInt32.ofNat (n + 1))] ++
      [v.retry.warning (n + 1) failure], by simp [length_eq], ?_⟩
    rw [Retry.Course.stateAfter_succ last]
    refine ⟨?_, ?_, attempts.isLogin⟩
    · have whole := attempts.passage.trans paused
      rw [List.append_nil] at whole
      exact whole
    · rw [authentications_append, attempts.authentications_eq]
      rfl

structure Connected (v : VaultSettings) (s : Scene) (sent : List (Option Http.Request))
    (entries : List Log.Entry)
    (result : Except Failure (Session (StateM Scene)) × Scene) : Prop where
  attempts : Attempts v s result.2 sent entries
  within : sent.length ≤ v.retry.attemptLimit
  opened : ∀ session, result.1 = .ok session → session.api = (Server.ofSettings v).api ∧
    session.valueField = v.valueField ∧
    IsSessionToken v s (sent.filterMap id) session.token

theorem Connected.of_record {v : VaultSettings} {s : Scene} {entry : Log.Entry}
    {sent : List (Option Http.Request)} {entries : List Log.Entry}
    {result : Except Failure (Session (StateM Scene)) × Scene}
    (connected : Connected v (s.record entry) sent entries result)
    (unrelated : authentications [entry] = 0) : Connected v s sent (entry :: entries) result := by
  have logged := Passage.record s entry
  refine ⟨⟨logged.trans connected.attempts.passage, ?_, connected.attempts.isLogin⟩,
    connected.within, ?_⟩
  · have counted := authentications_append [entry] entries
    rw [unrelated, Nat.zero_add, connected.attempts.authentications_eq] at counted
    exact counted
  · intro session ok
    obtain ⟨api_eq, valueField_eq, isToken⟩ := connected.opened session ok
    exact ⟨api_eq, valueField_eq, isToken.of_passage logged⟩

theorem run_connect (v : VaultSettings) (s : Scene) :
    (Session.connect v (Server.ofSettings v).api : StateM Scene _).run s =
      match (connecting v s).run with
      | (.error failure, s') => (.error failure, s')
      | (.ok token, s') =>
        (.ok { api := (Server.ofSettings v).api, token, valueField := v.valueField },
          s'.record (authenticated v)) := by
  have same : connectingTo (Server.ofSettings v).api v s = connecting v s := rfl
  rw [run_connect_eq, same]
  obtain ⟨result, s'⟩ := (connecting v s).run
  cases result <;> rfl

theorem exists_connected (v : VaultSettings) (s : Scene) : ∃ sent entries,
    Connected v s sent entries
      ((Session.connect v (Server.ofSettings v).api : StateM Scene _).run s) := by
  obtain ⟨n, ends⟩ := (connecting v s).exists_endsAfter
  obtain ⟨sent, entries, length_eq, before⟩ := exists_attempts_stateAfter v s ends.failed
  obtain ⟨next, attempted⟩ := attempted_attempt v (UInt32.ofNat (n + 1))
    ((connecting v s).stateAfter n)
  obtain ⟨attempts, granted⟩ := before.snoc attempted
  have within : (sent ++ [next]).length ≤ v.retry.attemptLimit := by
    rw [List.length_append, length_eq]
    exact ends.within
  cases last : ((connecting v s).outcome n).1 with
  | error failure =>
    have run_eq : (Session.connect v (Server.ofSettings v).api : StateM Scene _).run s =
        (.error (.authentication v.retry.maxAttempts failure.message),
          ((connecting v s).outcome n).2) := by
      rw [run_connect, Retry.Course.run_eq ends, last]
      rfl
    rw [run_eq]
    exact ⟨sent ++ [next], _, attempts, within, fun session ok => by cases ok⟩
  | ok token =>
    have run_eq : (Session.connect v (Server.ofSettings v).api : StateM Scene _).run s =
        (.ok { api := (Server.ofSettings v).api, token, valueField := v.valueField },
          ((connecting v s).outcome n).2.record (authenticated v)) := by
      rw [run_connect, Retry.Course.run_eq ends, last]
      rfl
    rw [run_eq]
    have logged := Passage.record ((connecting v s).outcome n).2 (authenticated v)
    have whole := attempts.passage.trans logged
    rw [List.append_nil] at whole
    refine ⟨sent ++ [next], entries ++ [authenticating v (UInt32.ofNat (n + 1))] ++
      [authenticated v], ⟨whole, ?_, attempts.isLogin⟩, within, ?_⟩
    · rw [authentications_append, attempts.authentications_eq]
      rfl
    · intro session ok
      obtain rfl := Except.ok.inj ok
      exact ⟨rfl, rfl, granted token last⟩

end SecretResolver.Vault
