import SecretResolver.Proofs.Template.Grammar

set_option autoImplicit false

namespace SecretResolver.Template

def addText (text : List Char) (pieces : List Piece) : List Piece :=
  text.foldr addChar pieces

theorem addText_of_no_literal {pieces : List Piece}
    (parted : ∀ text, pieces.head? ≠ some (.literal text)) (text : List Char) :
    addText text pieces = literalPieces text ++ pieces := by
  induction text with
  | nil => rfl
  | cons c cs ih =>
    change addChar c (addText cs pieces) = _
    rw [ih]
    cases cs with
    | cons d cs => rfl
    | nil =>
      match pieces, parted with
      | [], _ => rfl
      | .id :: pieces, _ => rfl
      | .literal text :: pieces, parted => exact absurd rfl (parted text)

theorem scan_cons {c : Char} {cs : List Char} (h : ¬(c = '{' ∧ cs.head? = some '{')) :
    scan (c :: cs) = (scan cs).map (addChar c) := by
  rw [scan]
  rintro cs' rfl rfl
  exact h ⟨rfl, rfl⟩

theorem scan_opening_append {cs body rest : List Char} (split : splitAction cs = some (body, rest))
    (named : Text.trim body = idName) : scan (opening ++ cs) = (scan rest).map (.id :: ·) := by
  change scan ('{' :: '{' :: cs) = _
  rw [scan]
  split
  · next none => cases split.symm.trans none
  · next some =>
    cases split.symm.trans some
    rw [named]
    rfl

theorem scan_action_append {action : List Char} (isAction : IsAction action) (r : List Char) :
    scan (action ++ r) = (scan r).map (.id :: ·) := by
  obtain ⟨body, noBrace, named, rfl⟩ := isAction_iff.1 isAction
  rw [List.append_assoc, List.append_assoc]
  exact scan_opening_append (splitAction_append r noBrace) named

-- The two braces of an opening could come from both sides of the seam.
theorem scan_literal_append {l r : List Char} (noOpening : ¬opening <:+: l)
    (seam : l.getLast? = some '{' → r.head? ≠ some '{') :
    scan (l ++ r) = (scan r).map (addText l) := by
  induction l with
  | nil => cases h : scan r <;> simp [h, Except.map, addText]
  | cons c cs ih =>
    have apart : ¬(c = '{' ∧ (cs ++ r).head? = some '{') := by
      rintro ⟨rfl, head⟩
      cases cs with
      | nil => exact seam rfl head
      | cons d cs => exact noOpening (opening_infix_cons.2 (.inl ⟨rfl, head⟩))
    have rest := ih (fun h => noOpening (opening_infix_cons.2 (.inr h))) (fun last =>
      seam (by rw [List.getLast?_cons, last]; rfl))
    rw [List.cons_append, scan_cons apart, rest]
    cases scan r <;> rfl

theorem scan_literal {l : List Char} (noOpening : ¬opening <:+: l) :
    scan l = .ok (literalPieces l) := by
  have h := scan_literal_append (r := []) noOpening (fun _ => by simp)
  rw [List.append_nil] at h
  rw [h, scan]
  change Except.ok (addText l []) = _
  rw [addText_of_no_literal (by simp), List.append_nil]

theorem Stretch.scan_text_append (s : Stretch) (r : List Char) :
    scan (s.text ++ r) = (scan r).map (s.pieces ++ ·) := by
  rw [Stretch.text, List.append_assoc, scan_literal_append s.no_opening
    (fun last => absurd last s.no_brace_last), scan_action_append s.isAction]
  cases scan r with
  | error fault => rfl
  | ok pieces =>
    change Except.ok (addText s.literal (.id :: pieces)) = _
    rw [addText_of_no_literal (by simp), Stretch.pieces]
    simp [Except.map]

theorem scan_stretches_append (xs : List Stretch) (r : List Char) :
    scan (xs.flatMap Stretch.text ++ r) = (scan r).map (xs.flatMap Stretch.pieces ++ ·) := by
  induction xs with
  | nil => cases h : scan r <;> simp [h, Except.map]
  | cons s xs ih =>
    rw [List.flatMap_cons, List.append_assoc, s.scan_text_append, ih]
    cases scan r <;> simp [Except.map]

theorem Decomposition.scan_text (d : Decomposition) : scan d.text = .ok d.pieces := by
  rw [Decomposition.text, scan_stretches_append, scan_literal d.no_opening]
  rfl

theorem exists_stretches_cons {c : Char} {xs : List Stretch} {last : List Char}
    (noOpening : ¬opening <:+: last)
    (apart : ¬(c = '{' ∧ (xs.flatMap Stretch.text ++ last).head? = some '{')) :
    ∃ (ys : List Stretch) (y : List Char), ¬opening <:+: y ∧
      c :: (xs.flatMap Stretch.text ++ last) = ys.flatMap Stretch.text ++ y := by
  cases xs with
  | nil =>
    refine ⟨[], c :: last, ?_, rfl⟩
    intro inside
    rcases opening_infix_cons.1 inside with first | rest
    · exact apart first
    · exact noOpening rest
  | cons s xs =>
    obtain ⟨tail, action_eq⟩ := s.isAction.eq_opening_append
    have no_opening : ¬opening <:+: c :: s.literal := by
      intro inside
      rcases opening_infix_cons.1 inside with ⟨brace, head⟩ | rest
      · refine apart ⟨brace, ?_⟩
        simp [Stretch.text, head]
      · exact s.no_opening rest
    have no_brace_last : (c :: s.literal).getLast? ≠ some '{' := by
      intro brace
      cases h : s.literal.getLast? with
      | some d =>
        rw [List.getLast?_cons, h] at brace
        exact s.no_brace_last (h.trans brace)
      | none =>
        rw [List.getLast?_cons, h] at brace
        have empty := List.getLast?_eq_none_iff.1 h
        refine apart ⟨Option.some.inj brace, ?_⟩
        simp [Stretch.text, empty, action_eq, opening]
    exact ⟨⟨c :: s.literal, s.action, no_opening, no_brace_last, s.isAction⟩ :: xs, last,
      noOpening, rfl⟩

end SecretResolver.Template
