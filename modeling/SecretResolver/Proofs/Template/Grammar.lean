import SecretResolver.Proofs.Template.Search

set_option autoImplicit false

namespace SecretResolver.Template

def opening : List Char := ['{', '{']

def closing : List Char := ['}', '}']

def idName : List Char := ['.', 'I', 'D']

-- Blanks are free around the name, and are of no other use.
def IsAction (cs : List Char) : Prop :=
  ∃ before after, (∀ c ∈ before, Text.isBlank c) ∧ (∀ c ∈ after, Text.isBlank c) ∧
    cs = opening ++ before ++ idName ++ after ++ closing

structure Stretch where
  literal : List Char
  action : List Char
  no_opening : ¬opening <:+: literal
  no_brace_last : literal.getLast? ≠ some '{'
  isAction : IsAction action

structure Decomposition where
  stretches : List Stretch
  last : List Char
  nonempty : stretches ≠ []
  no_opening : ¬opening <:+: last

def Stretch.text (s : Stretch) : List Char :=
  s.literal ++ s.action

def Stretch.pieces (s : Stretch) : List Piece :=
  literalPieces s.literal ++ [.id]

namespace Decomposition

def text (d : Decomposition) : List Char :=
  d.stretches.flatMap Stretch.text ++ d.last

def pieces (d : Decomposition) : List Piece :=
  d.stretches.flatMap Stretch.pieces ++ literalPieces d.last

def fill (id : List Char) (d : Decomposition) : List Char :=
  d.stretches.flatMap (fun s => s.literal ++ id) ++ d.last

end Decomposition

theorem opening_infix_cons {c : Char} {cs : List Char} :
    opening <:+: c :: cs ↔ (c = '{' ∧ cs.head? = some '{') ∨ opening <:+: cs := by
  rw [List.infix_cons_iff]
  cases cs with
  | nil => simp [opening]
  | cons d cs => simp [opening, eq_comm]

theorem trim_body {before after : List Char} (beforeBlank : ∀ c ∈ before, Text.isBlank c)
    (afterBlank : ∀ c ∈ after, Text.isBlank c) :
    Text.trim (before ++ idName ++ after) = idName := by
  apply Text.trim_append beforeBlank afterBlank
  · intro c head
    cases head
    rfl
  · intro c last
    cases last
    rfl
  · exact List.cons_ne_nil _ _

theorem brace_notMem_body {before after : List Char} (beforeBlank : ∀ c ∈ before, Text.isBlank c)
    (afterBlank : ∀ c ∈ after, Text.isBlank c) : '}' ∉ before ++ idName ++ after := by
  intro member
  rcases List.mem_append.1 member with member | member
  · rcases List.mem_append.1 member with member | member
    · exact blank_ne_brace (beforeBlank _ member) rfl
    · exact absurd member (by decide)
  · exact blank_ne_brace (afterBlank _ member) rfl

theorem isAction_iff {cs : List Char} :
    IsAction cs ↔
      ∃ body, '}' ∉ body ∧ Text.trim body = idName ∧ cs = opening ++ body ++ closing := by
  constructor
  · rintro ⟨before, after, beforeBlank, afterBlank, rfl⟩
    exact ⟨before ++ idName ++ after, brace_notMem_body beforeBlank afterBlank,
      trim_body beforeBlank afterBlank, by simp only [List.append_assoc]⟩
  · rintro ⟨body, noBrace, trimmed, rfl⟩
    obtain ⟨before, after, beforeBlank, afterBlank, body_eq⟩ := Text.exists_blanks_around_trim body
    rw [trimmed] at body_eq
    exact ⟨before, after, beforeBlank, afterBlank, by rw [body_eq]; simp only [List.append_assoc]⟩

theorem IsAction.eq_opening_append {cs : List Char} (h : IsAction cs) :
    ∃ rest, cs = opening ++ rest := by
  obtain ⟨body, -, -, rfl⟩ := isAction_iff.1 h
  exact ⟨body ++ closing, List.append_assoc _ _ _⟩

theorem action_unique {a a' r r' : List Char} (isAction : IsAction a) (isAction' : IsAction a')
    (same : a ++ r = a' ++ r') : a = a' ∧ r = r' := by
  obtain ⟨body, noBrace, -, rfl⟩ := isAction_iff.1 isAction
  obtain ⟨body', noBrace', -, rfl⟩ := isAction_iff.1 isAction'
  simp only [List.append_assoc, List.append_cancel_left_eq] at same
  have bodies : some (body, r) = some (body', r') := by
    rw [← splitAction_append r noBrace, ← splitAction_append r' noBrace']
    exact congrArg splitAction same
  cases bodies
  exact ⟨rfl, rfl⟩

-- A literal that went on into the opening of an action would end in its first brace or hold both.
theorem literal_eq_nil {l r r' : List Char} (noOpening : ¬opening <:+: l)
    (noBrace : l.getLast? ≠ some '{') (same : l ++ r = opening ++ r') : l = [] := by
  match l, same with
  | [], _ => rfl
  | [c], same =>
    obtain ⟨rfl, -⟩ := List.cons.inj same
    exact absurd rfl noBrace
  | c :: d :: cs, same =>
    obtain ⟨rfl, rest⟩ := List.cons.inj same
    obtain ⟨rfl, -⟩ := List.cons.inj rest
    exact absurd (opening_infix_cons.2 (.inl ⟨rfl, rfl⟩)) noOpening

theorem getLast?_tail_ne {c : Char} {cs : List Char} (h : (c :: cs).getLast? ≠ some '{') :
    cs.getLast? ≠ some '{' := by
  intro last
  exact h (by rw [List.getLast?_cons, last]; rfl)

theorem literal_unique {l l' r r' : List Char} (noOpening : ¬opening <:+: l)
    (noOpening' : ¬opening <:+: l') (noBrace : l.getLast? ≠ some '{')
    (noBrace' : l'.getLast? ≠ some '{') (same : l ++ (opening ++ r) = l' ++ (opening ++ r')) :
    l = l' ∧ r = r' := by
  induction l generalizing l' with
  | nil =>
    cases literal_eq_nil noOpening' noBrace' same.symm
    exact ⟨rfl, List.append_cancel_left same⟩
  | cons c cs ih =>
    cases l' with
    | nil => exact absurd (literal_eq_nil noOpening noBrace same) (List.cons_ne_nil _ _)
    | cons c' cs' =>
      obtain ⟨rfl, rest⟩ := List.cons.inj same
      obtain ⟨rfl, rfl⟩ := ih (fun h => noOpening (opening_infix_cons.2 (.inr h)))
        (fun h => noOpening' (opening_infix_cons.2 (.inr h))) (getLast?_tail_ne noBrace)
        (getLast?_tail_ne noBrace') rest
      exact ⟨rfl, rfl⟩

theorem Stretch.opening_infix_text_append (s : Stretch) (r : List Char) :
    opening <:+: s.text ++ r := by
  obtain ⟨rest, action_eq⟩ := s.isAction.eq_opening_append
  exact ⟨s.literal, rest ++ r, by simp only [Stretch.text, action_eq, List.append_assoc]⟩

theorem Stretch.text_append_unique {s s' : Stretch} {r r' : List Char}
    (same : s.text ++ r = s'.text ++ r') : s = s' ∧ r = r' := by
  obtain ⟨rest, action_eq⟩ := s.isAction.eq_opening_append
  obtain ⟨rest', action_eq'⟩ := s'.isAction.eq_opening_append
  have literals : s.literal = s'.literal := by
    simp only [Stretch.text, action_eq, action_eq', List.append_assoc] at same
    exact (literal_unique s.no_opening s'.no_opening s.no_brace_last s'.no_brace_last same).1
  simp only [Stretch.text, literals, List.append_assoc, List.append_cancel_left_eq] at same
  obtain ⟨actions, rests⟩ := action_unique s.isAction s'.isAction same
  cases s
  cases s'
  cases literals
  cases actions
  exact ⟨rfl, rests⟩

theorem stretches_unique {xs ys : List Stretch} {x y : List Char} (noOpening : ¬opening <:+: x)
    (noOpening' : ¬opening <:+: y)
    (same : xs.flatMap Stretch.text ++ x = ys.flatMap Stretch.text ++ y) : xs = ys ∧ x = y := by
  induction xs generalizing ys with
  | nil =>
    cases ys with
    | nil => exact ⟨rfl, same⟩
    | cons s ys =>
      rw [List.flatMap_nil, List.nil_append, List.flatMap_cons, List.append_assoc] at same
      rw [same] at noOpening
      exact absurd (s.opening_infix_text_append _) noOpening
  | cons s xs ih =>
    rw [List.flatMap_cons, List.append_assoc] at same
    cases ys with
    | nil =>
      rw [List.flatMap_nil, List.nil_append] at same
      rw [← same] at noOpening'
      exact absurd (s.opening_infix_text_append _) noOpening'
    | cons s' ys =>
      rw [List.flatMap_cons, List.append_assoc] at same
      obtain ⟨rfl, rest⟩ := Stretch.text_append_unique same
      obtain ⟨rfl, rfl⟩ := ih rest
      exact ⟨rfl, rfl⟩

theorem Decomposition.text_injective : Function.Injective Decomposition.text := by
  rintro ⟨xs, x, _, noOpening⟩ ⟨ys, y, _, noOpening'⟩ same
  obtain ⟨rfl, rfl⟩ := stretches_unique noOpening noOpening' same
  rfl

end SecretResolver.Template
