import SecretResolver.Json.Tree

set_option autoImplicit false

namespace SecretResolver.Json.Tree

mutual

def tokens : Tree → List Token
  | .null => [.null]
  | .bool b => [.bool b]
  | .number n => [.number n]
  | .text items => [.text items]
  | .array items => .openBracket :: ((itemTokens items).tail ++ [.closeBracket])
  | .object members => .openBrace :: ((memberTokens members).tail ++ [.closeBrace])

def itemTokens : List Tree → List Token
  | [] => []
  | item :: items => .comma :: (tokens item ++ itemTokens items)

def memberTokens : List (List TextItem × Tree) → List Token
  | [] => []
  | (name, value) :: members =>
    .comma :: .text name :: .colon :: (tokens value ++ memberTokens members)

end

theorem itemTokens_append (items : List Tree) (item : Tree) :
    itemTokens (items ++ [item]) = itemTokens items ++ .comma :: item.tokens := by
  induction items with
  | nil => simp [itemTokens]
  | cons first items ih => simp [itemTokens, ih]

theorem memberTokens_append (members : List (List TextItem × Tree)) (name : List TextItem)
    (value : Tree) : memberTokens (members ++ [(name, value)]) =
      memberTokens members ++ .comma :: .text name :: .colon :: value.tokens := by
  induction members with
  | nil => simp [memberTokens]
  | cons first members ih => simp [memberTokens, ih]

def Frame.tokens : Frame → List Token
  | .array done => .openBracket :: (itemTokens done.reverse ++ [Token.comma]).tail
  | .object done => .openBrace :: (memberTokens done.reverse ++ [Token.comma]).tail
  | .member done name =>
    .openBrace :: (memberTokens done.reverse ++ [Token.comma, Token.text name, Token.colon]).tail

-- the innermost frame is the first of them, and was opened last
def framesTokens : List Frame → List Token
  | [] => []
  | frame :: frames => framesTokens frames ++ frame.tokens

inductive After : List Token → State → Prop where
  | waiting {place : Place} (frames : List Frame) (noColon : place ≠ .colon)
      (noSeparator : place ≠ .separator) : After (framesTokens frames) (.inside place frames)
  | named (done : List (List TextItem × Tree)) (name : List TextItem) (frames : List Frame) :
      After (framesTokens frames ++
          .openBrace :: (memberTokens done.reverse ++ [Token.comma, Token.text name]).tail)
        (.inside .colon (.member done name :: frames))
  | item (tree : Tree) (done : List Tree) (frames : List Frame) :
      After (framesTokens frames ++ .openBracket :: (itemTokens (tree :: done).reverse).tail)
        (.inside .separator (.array (tree :: done) :: frames))
  | member (name : List TextItem) (tree : Tree) (done : List (List TextItem × Tree))
      (frames : List Frame) :
      After (framesTokens frames ++
          .openBrace :: (memberTokens ((name, tree) :: done).reverse).tail)
        (.inside .separator (.object ((name, tree) :: done) :: frames))
  | finished (tree : Tree) : After tree.tokens (.finished tree)

theorem tail_append (tokens more rest : List Token) (token : Token) :
    (tokens ++ token :: more).tail ++ rest = (tokens ++ token :: (more ++ rest)).tail := by
  rw [← List.tail_append_of_ne_nil (by simp), List.append_assoc, List.cons_append]

section

variable {tree : Tree} {token : Token} {tokens rest : List Token} {frames : List Frame}
  {state next : State}

theorem After.of_eq (after : After tokens state) (same : rest = tokens) : After rest state :=
  same ▸ after

theorem after_complete (completed : complete tree frames = some next) :
    After (framesTokens frames ++ tree.tokens) next := by
  match frames, completed with
  | [], completed =>
    cases completed
    exact .finished tree
  | .array done :: frames, completed =>
    cases completed
    apply (After.item tree done frames).of_eq
    simp [framesTokens, Frame.tokens, itemTokens_append, tail_append]
  | .member done name :: frames, completed =>
    cases completed
    apply (After.member name tree done frames).of_eq
    simp [framesTokens, Frame.tokens, memberTokens_append, tail_append]

theorem after_beginValue (begun : beginValue token frames = some next) :
    After (framesTokens frames ++ [token]) next := by
  unfold beginValue at begun
  split at begun
  · exact (after_complete begun).of_eq rfl
  · exact (after_complete begun).of_eq rfl
  · exact (after_complete begun).of_eq rfl
  · exact (after_complete begun).of_eq rfl
  · cases begun
    exact .waiting (.array [] :: frames) (by decide) (by decide)
  · cases begun
    exact .waiting (.object [] :: frames) (by decide) (by decide)
  · cases begun

theorem step_firstItem (stepped : step (.inside .firstItem frames) token = some next) :
    (∃ outer, frames = .array [] :: outer ∧ token = .closeBracket ∧
      complete (.array []) outer = some next) ∨ beginValue token frames = some next := by
  unfold step at stepped
  split at stepped <;> simp_all

theorem step_firstName (stepped : step (.inside .firstName frames) token = some next) :
    (∃ outer, frames = .object [] :: outer ∧ token = .closeBrace ∧
      complete (.object []) outer = some next) ∨
    ∃ done outer name, frames = .object done :: outer ∧ token = .text name ∧
      next = .inside .colon (.member done name :: outer) := by
  unfold step at stepped
  split at stepped
  case h_5 same =>
    cases same
    cases stepped
    exact .inr ⟨_, _, _, rfl, rfl, rfl⟩
  all_goals simp_all

theorem step_name (stepped : step (.inside .name frames) token = some next) :
    ∃ done outer name, frames = .object done :: outer ∧ token = .text name ∧
      next = .inside .colon (.member done name :: outer) := by
  unfold step at stepped
  split at stepped
  case h_6 same =>
    cases same
    cases stepped
    exact ⟨_, _, _, rfl, rfl, rfl⟩
  all_goals simp_all

theorem after_name (done : List (List TextItem × Tree)) (name : List TextItem)
    (outer : List Frame) :
    After (framesTokens (.object done :: outer) ++ [.text name])
      (.inside .colon (.member done name :: outer)) := by
  apply (After.named done name outer).of_eq
  simp [framesTokens, Frame.tokens, tail_append]

theorem After.step (after : After tokens state) (stepped : step state token = some next) :
    After (tokens ++ [token]) next := by
  cases after with
  | finished tree => cases stepped
  | named done name frames =>
    cases token with
    | colon =>
      cases stepped
      apply (After.waiting (.member done name :: frames) (by decide) (by decide)).of_eq
      simp [framesTokens, Frame.tokens, tail_append]
    | _ => cases stepped
  | item tree done frames =>
    cases token with
    | comma =>
      cases stepped
      apply (After.waiting (.array (tree :: done) :: frames) (by decide) (by decide)).of_eq
      simp [framesTokens, Frame.tokens, itemTokens_append, tail_append]
    | closeBracket =>
      apply (after_complete stepped).of_eq
      simp [Tree.tokens]
    | _ => cases stepped
  | member name tree done frames =>
    cases token with
    | comma =>
      cases stepped
      apply (After.waiting (.object ((name, tree) :: done) :: frames) (by decide) (by decide)).of_eq
      simp [framesTokens, Frame.tokens, memberTokens_append, tail_append]
    | closeBrace =>
      apply (after_complete stepped).of_eq
      simp [Tree.tokens]
    | _ => cases stepped
  | @waiting place frames noColon noSeparator =>
    cases place with
    | colon => exact absurd rfl noColon
    | separator => exact absurd rfl noSeparator
    | value => exact after_beginValue stepped
    | firstItem =>
      rcases step_firstItem stepped with ⟨outer, rfl, rfl, completed⟩ | begun
      · apply (after_complete completed).of_eq
        simp [framesTokens, Frame.tokens, Tree.tokens, itemTokens]
      · exact after_beginValue begun
    | firstName =>
      rcases step_firstName stepped with ⟨outer, rfl, rfl, completed⟩ |
        ⟨done, outer, name, rfl, rfl, rfl⟩
      · apply (after_complete completed).of_eq
        simp [framesTokens, Frame.tokens, Tree.tokens, memberTokens]
      · exact after_name done name outer
    | name =>
      obtain ⟨done, outer, name, rfl, rfl, rfl⟩ := step_name stepped
      exact after_name done name outer

theorem After.run (after : After tokens state) (run : rest.foldlM Tree.step state = some next) :
    After (tokens ++ rest) next := by
  induction rest generalizing tokens state with
  | nil =>
    cases run
    exact after.of_eq (List.append_nil tokens)
  | cons token rest ih =>
    obtain ⟨between, stepped, run⟩ := Option.bind_eq_some_iff.1 run
    exact (ih (after.step stepped) run).of_eq (List.append_cons tokens token rest)

theorem tokens_of_ofTokens? (read : ofTokens? tokens = some tree) : tokens = tree.tokens := by
  obtain ⟨last, run, finished⟩ := Option.bind_eq_some_iff.1 read
  have start : After [] (.inside .value []) := .waiting [] (by decide) (by decide)
  have after := start.run run
  cases after with
  | finished tree' =>
    cases finished
    rfl
  | _ => cases finished

end

end SecretResolver.Json.Tree
