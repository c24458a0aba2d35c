import SecretResolver.Scene

set_option autoImplicit false

namespace SecretResolver.Scene

-- The act is a variable in these, so that nothing evaluates it to see that they hold.
theorem run_bind {α β : Type} (act : StateM Scene α) (next : α → StateM Scene β) (s : Scene) :
    (act >>= next).run s = (next (act.run s).1).run (act.run s).2 :=
  rfl

theorem run_return {α β : Type} (act : StateM Scene α) (f : α → β) (s : Scene) :
    (do return f (← act) : StateM Scene β).run s = (f (act.run s).1, (act.run s).2) :=
  rfl

def record (s : Scene) (entry : Log.Entry) : Scene :=
  { s with log := s.log ++ [entry] }

theorem run_write_bind {α : Type} (entry : Log.Entry) (act : StateM Scene α) (s : Scene) :
    (do Log.Logger.write entry; act : StateM Scene α).run s = act.run (s.record entry) :=
  rfl

def isServed (s : Scene) : Bool :=
  s.replies.isSome

def answerTo (s : Scene) (i : Nat) : Except String Http.Reply :=
  match s.replies with
  | none => .error s.refusal
  | some replies => replies.getD i (.ok exhausted)

structure Passage (s s' : Scene) (requests : List Http.Request) (entries : List Log.Entry) :
    Prop where
  requests_eq : s'.requests = s.requests ++ requests
  log_eq : s'.log = s.log ++ entries
  isServed_eq : s'.isServed = s.isServed
  answerTo_eq : ∀ i, s'.answerTo i = s.answerTo (requests.length + i)

namespace Passage

variable {s s' s'' : Scene} {requests requests' : List Http.Request}
  {entries entries' : List Log.Entry}

theorem refl (s : Scene) : Passage s s [] [] where
  requests_eq := (List.append_nil _).symm
  log_eq := (List.append_nil _).symm
  isServed_eq := rfl
  answerTo_eq i := by rw [List.length_nil, Nat.zero_add]

theorem trans (first : Passage s s' requests entries)
    (second : Passage s' s'' requests' entries') :
    Passage s s'' (requests ++ requests') (entries ++ entries') where
  requests_eq := by rw [second.requests_eq, first.requests_eq, List.append_assoc]
  log_eq := by rw [second.log_eq, first.log_eq, List.append_assoc]
  isServed_eq := second.isServed_eq.trans first.isServed_eq
  answerTo_eq i := by
    rw [second.answerTo_eq, first.answerTo_eq, List.length_append, Nat.add_assoc]

theorem record (s : Scene) (entry : Log.Entry) : Passage s (s.record entry) [] [entry] where
  requests_eq := (List.append_nil _).symm
  log_eq := rfl
  isServed_eq := rfl
  answerTo_eq i := by rw [List.length_nil, Nat.zero_add]; rfl

theorem sleep (s : Scene) : Passage s s.sleep [] [] := by
  unfold Scene.sleep
  split
  · exact refl s
  · exact
      { requests_eq := (List.append_nil _).symm
        log_eq := (List.append_nil _).symm
        isServed_eq := rfl
        answerTo_eq := fun i => by rw [List.length_nil, Nat.zero_add]; rfl }

theorem exchange {s : Scene} (served : s.isServed) (request : Http.Request) :
    Passage s (s.exchange request).2 [request] [] := by
  cases replies : s.replies with
  | none => simp [isServed, replies] at served
  | some script =>
    cases script <;> simp only [Scene.exchange, replies]
    all_goals
      constructor
      · rfl
      · exact (List.append_nil _).symm
      · simp [isServed, replies]
      · intro i
        simp [answerTo, replies, Nat.add_comm 1 i]

end Passage

theorem exchange_of_not_served {s : Scene} (refused : s.isServed = false) (request : Http.Request) :
    s.exchange request = (.error s.refusal, s) := by
  cases replies : s.replies with
  | none => simp only [exchange, replies]
  | some script => simp [isServed, replies] at refused

theorem exchange_reply {s : Scene} (request : Http.Request) :
    (s.exchange request).1 = s.answerTo 0 := by
  cases replies : s.replies with
  | none => simp only [exchange, answerTo, replies]
  | some script => cases script <;> simp [exchange, answerTo, replies]

theorem isServed_of_answerTo {s : Scene} {i : Nat} {reply : Http.Reply}
    (answered : s.answerTo i = .ok reply) : s.isServed := by
  cases replies : s.replies with
  | none =>
    rw [answerTo, replies] at answered
    cases answered
  | some script => simp [isServed, replies]

theorem exchange_keeps (s : Scene) (request : Http.Request) :
    (s.exchange request).2.files = s.files ∧ (s.exchange request).2.delays = s.delays ∧
      (s.exchange request).2.environment = s.environment := by
  cases replies : s.replies with
  | none => simp only [exchange, replies, and_self]
  | some script => cases script <;> simp only [exchange, replies, and_self]

end SecretResolver.Scene
