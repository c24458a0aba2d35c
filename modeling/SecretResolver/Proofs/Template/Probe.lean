import Mathlib.Tactic.TFAE
import SecretResolver.Proofs.Template.Nesting

set_option autoImplicit false

namespace SecretResolver.Template

def probe : String := "\x7b\x7b"

theorem probe_toList : probe.toList = opening :=
  rfl

section

variable {xs ys : List Stretch} {x y : List Char}

-- The literals keep the pairs of braces apart: none has one, and none ends where one could begin.
theorem literals_unique (noOpening : ¬opening <:+: x) (noOpening' : ¬opening <:+: y)
    (same : xs.flatMap (fun s => s.literal ++ opening) ++ x =
      ys.flatMap (fun s => s.literal ++ opening) ++ y) :
    xs.map Stretch.literal = ys.map Stretch.literal ∧ x = y := by
  induction xs generalizing ys with
  | nil =>
    cases ys with
    | nil => exact ⟨rfl, same⟩
    | cons s ys =>
      rw [List.flatMap_nil, List.nil_append, List.flatMap_cons, List.append_assoc] at same
      rw [same] at noOpening
      exact absurd (List.infix_append _ _ _) noOpening
  | cons s xs ih =>
    rw [List.flatMap_cons, List.append_assoc] at same
    cases ys with
    | nil =>
      rw [List.flatMap_nil, List.nil_append] at same
      rw [← same] at noOpening'
      exact absurd (List.infix_append _ _ _) noOpening'
    | cons s' ys =>
      rw [List.flatMap_cons, List.append_assoc, List.append_assoc, List.append_assoc] at same
      obtain ⟨first, rest⟩ := literal_unique s.no_opening s'.no_opening s.no_brace_last
        s'.no_brace_last same
      obtain ⟨others, last⟩ := ih rest
      exact ⟨by rw [List.map_cons, List.map_cons, first, others], last⟩

theorem pieces_of_literals (same : xs.map Stretch.literal = ys.map Stretch.literal) :
    xs.flatMap Stretch.pieces = ys.flatMap Stretch.pieces := by
  have of_literals (zs : List Stretch) : zs.flatMap Stretch.pieces =
      (zs.map Stretch.literal).flatMap fun text => literalPieces text ++ [.id] := by
    rw [List.flatMap_map]
    rfl
  rw [of_literals, of_literals, same]

end

theorem exists_literals_of_probe {t u : Template} (same : t.locate probe = u.locate probe) :
    ∃ d d' : Decomposition, d.text = t.source.toList ∧ d'.text = u.source.toList ∧
      t.pieces = d.pieces ∧ u.pieces = d'.pieces ∧
      d.stretches.map Stretch.literal = d'.stretches.map Stretch.literal ∧ d.last = d'.last := by
  obtain ⟨d, text_eq, pieces_eq⟩ := t.exists_decomposition
  obtain ⟨d', text_eq', pieces_eq'⟩ := u.exists_decomposition
  have filled : d.fill opening = d'.fill opening := by
    rw [← d.fill_pieces, ← d'.fill_pieces, ← pieces_eq, ← pieces_eq', ← probe_toList]
    exact String.ofList_injective same
  exact ⟨d, d', text_eq, text_eq', pieces_eq, pieces_eq',
    literals_unique d.no_opening d'.no_opening filled⟩

theorem pieces_eq_of_probe {t u : Template} (same : t.locate probe = u.locate probe) :
    t.pieces = u.pieces := by
  obtain ⟨d, d', -, -, pieces_eq, pieces_eq', literals, last⟩ := exists_literals_of_probe same
  rw [pieces_eq, pieces_eq', Decomposition.pieces, Decomposition.pieces,
    pieces_of_literals literals, last]

inductive Respaced : List Char → List Char → Prop where
  | refl (text : List Char) : Respaced text text
  | action {text action action' rest rest' : List Char} (isAction : IsAction action)
      (isAction' : IsAction action') (others : Respaced rest rest') :
      Respaced (text ++ (action ++ rest)) (text ++ (action' ++ rest'))

theorem respaced_of_literals {xs ys : List Stretch}
    (same : xs.map Stretch.literal = ys.map Stretch.literal) (last : List Char) :
    Respaced (xs.flatMap Stretch.text ++ last) (ys.flatMap Stretch.text ++ last) := by
  induction xs generalizing ys with
  | nil =>
    obtain rfl := List.map_eq_nil_iff.1 same.symm
    exact .refl last
  | cons s xs ih =>
    cases ys with
    | nil => cases same
    | cons s' ys =>
      obtain ⟨first, others⟩ := List.cons.inj same
      simp only [List.flatMap_cons, Stretch.text, List.append_assoc, first]
      exact .action s.isAction s'.isAction (ih others)

theorem respaced_of_pieces_eq {t u : Template} (pieces_eq : t.pieces = u.pieces) :
    Respaced t.source.toList u.source.toList := by
  obtain ⟨d, d', text_eq, text_eq', -, -, literals, last⟩ :=
    exists_literals_of_probe (locate_congr pieces_eq probe)
  rw [← text_eq, ← text_eq', Decomposition.text, Decomposition.text, ← last]
  exact respaced_of_literals literals d.last

theorem opening_brace_notMem_body {body : List Char} (named : Text.trim body = idName) :
    '{' ∉ body := by
  obtain ⟨before, after, beforeBlank, afterBlank, body_eq⟩ := Text.exists_blanks_around_trim body
  rw [named] at body_eq
  intro mem
  rw [body_eq, List.mem_append, List.mem_append] at mem
  rcases mem with (mem | mem) | mem
  · exact absurd (beforeBlank _ mem) (by decide)
  · exact absurd mem (by decide)
  · exact absurd (afterBlank _ mem) (by decide)

theorem exists_body_of_scan {cs : List Char} {pieces : List Piece}
    (scanned : scan (opening ++ cs) = .ok pieces) : ∃ body rest,
      cs = body ++ '}' :: '}' :: rest ∧ Text.trim body = idName ∧ '}' ∉ body := by
  change scan ('{' :: '{' :: cs) = _ at scanned
  rw [scan] at scanned
  split at scanned
  · cases scanned
  · next body rest split =>
    obtain ⟨cs_eq, noBrace⟩ := eq_append_of_splitAction split
    cases checked : checkAction (Text.trim body) with
    | error fault =>
      rw [checked] at scanned
      cases scanned
    | ok _ => exact ⟨body, rest, cs_eq, checkAction_eq_ok_iff.1 checked, noBrace⟩

-- An opening brace stands for nothing that a body could have, so the action ends before it.
theorem exists_rest_of_append_eq {w r body rest : List Char} (noBrace : '{' ∉ body)
    (same : w ++ '{' :: r = body ++ '}' :: '}' :: rest) :
    ∃ w', w = body ++ '}' :: '}' :: w' := by
  have split : w ++ '{' :: r = (body ++ closing) ++ rest := by
    rw [same]
    simp [closing]
  rcases List.append_eq_append_iff.1 split with ⟨m, closed, tail⟩ | ⟨w', w_eq, -⟩
  · cases m with
    | nil => exact ⟨[], by simpa [closing] using closed.symm⟩
    | cons c m =>
      obtain ⟨rfl, -⟩ := List.cons.inj tail
      have mem : '{' ∈ body ++ closing := closed ▸ by simp
      simp [noBrace, closing] at mem
  · exact ⟨w', by simpa [closing] using w_eq⟩

theorem scan_action_step {body : List Char} (named : Text.trim body = idName) (noBrace : '}' ∉ body)
    (rest : List Char) :
    scan (opening ++ (body ++ '}' :: '}' :: rest)) = (scan rest).map (.id :: ·) :=
  scan_opening_append (splitAction_append rest noBrace) named

theorem scan_text_append_congr {r r' : List Char} {pieces : List Piece}
    (same : ∀ inner, scan (opening ++ r) = .ok inner → scan (opening ++ r') = .ok inner)
    (text : List Char) (scanned : scan (text ++ (opening ++ r)) = .ok pieces) :
    scan (text ++ (opening ++ r')) = .ok pieces := by
  match text with
  | [] => exact same pieces scanned
  | c :: cs =>
    by_cases opens : c = '{' ∧ (cs ++ (opening ++ r)).head? = some '{'
    · obtain ⟨rfl, head⟩ := opens
      cases cs with
      | nil =>
        -- the first of three braces would have to open an action with another in its body
        have scanned : scan (opening ++ '{' :: r) = .ok pieces := scanned
        obtain ⟨body, rest, cs_eq, named, -⟩ := exists_body_of_scan scanned
        obtain ⟨w, w_eq⟩ :=
          exists_rest_of_append_eq (w := []) (opening_brace_notMem_body named) cs_eq
        simp at w_eq
      | cons d w =>
        obtain rfl : d = '{' := Option.some.inj head
        have opened : scan (opening ++ (w ++ (opening ++ r))) = .ok pieces := scanned
        obtain ⟨body, rest, cs_eq, named, noBrace⟩ := exists_body_of_scan opened
        obtain ⟨w', rfl⟩ := exists_rest_of_append_eq (opening_brace_notMem_body named) cs_eq
        have step (tail : List Char) :
            scan ('{' :: '{' :: (body ++ '}' :: '}' :: w') ++ (opening ++ tail)) =
              (scan (w' ++ (opening ++ tail))).map (.id :: ·) := by
          rw [← scan_action_step named noBrace]
          simp [opening]
        rw [step] at scanned ⊢
        obtain ⟨inner, read⟩ := exists_ok_of_map scanned
        rw [scan_text_append_congr same w' read, ← read, scanned]
    · have opens' : ¬(c = '{' ∧ (cs ++ (opening ++ r')).head? = some '{') := by
        simpa [opening, List.head?_append] using opens
      rw [List.cons_append, scan_cons opens] at scanned
      obtain ⟨inner, read⟩ := exists_ok_of_map scanned
      rw [List.cons_append, scan_cons opens', scan_text_append_congr same cs read, ← read, scanned]
termination_by text.length

theorem Respaced.scan_eq {cs cs' : List Char} (respaced : Respaced cs cs') {pieces : List Piece}
    (scanned : scan cs = .ok pieces) : scan cs' = .ok pieces := by
  induction respaced generalizing pieces with
  | refl text => exact scanned
  | @action text action action' rest rest' isAction isAction' _ ih =>
    obtain ⟨tail, rfl⟩ := isAction.eq_opening_append
    obtain ⟨tail', rfl⟩ := isAction'.eq_opening_append
    rw [List.append_assoc] at scanned ⊢
    refine scan_text_append_congr (fun inner read => ?_) text scanned
    rw [← List.append_assoc, scan_action_append isAction] at read
    obtain ⟨others, read'⟩ := exists_ok_of_map read
    rw [← List.append_assoc, scan_action_append isAction', ih read', ← read', read]

theorem alike_tfae_probe {source source' : String} {t u : Template}
    (compiled : compile source = .ok t) (compiled' : compile source' = .ok u) : List.TFAE [
      ∀ id, t.locate id = u.locate id,
      t.locate "\x7b\x7b" = u.locate "\x7b\x7b",
      t.pieces = u.pieces,
      Respaced source.toList source'.toList] := by
  obtain rfl := source_of_compile compiled
  obtain rfl := source_of_compile compiled'
  tfae_have 1 → 2 := fun same => same _
  tfae_have 2 → 3 := pieces_eq_of_probe
  tfae_have 3 → 4 := respaced_of_pieces_eq
  tfae_have 4 → 3 := by
    intro respaced
    have scanned := respaced.scan_eq t.scan_source
    exact Except.ok.inj (scanned.symm.trans u.scan_source)
  tfae_have 3 → 1 := locate_congr
  tfae_finish

def spacedOutSource : String :=
  "\x7b-\x7b\x7b\u3000.ID\x7d\x7d\x7b\x7b.ID\t \x7d\x7d\x7b"

theorem scan_spacedOutSource : scan spacedOutSource.toList = .ok doubled.pieces := by
  cbv

-- the pieces of `doubled`, with other blanks
def spacedOut : Template :=
  ofScan spacedOutSource doubled.pieces scan_spacedOutSource doubled.id_mem

theorem alike_tfae_probe_spacedOut :
    compile doubled.source = .ok doubled ∧ compile spacedOut.source = .ok spacedOut ∧
      doubled.locate "\x7b\x7b" = spacedOut.locate "\x7b\x7b" ∧
      (∀ id, doubled.locate id = spacedOut.locate id) ∧ doubled.pieces = spacedOut.pieces ∧
      Respaced doubled.source.toList spacedOut.source.toList := by
  have alike := alike_tfae_probe (compile_source doubled) (compile_source spacedOut)
  have probed : doubled.locate "\x7b\x7b" = spacedOut.locate "\x7b\x7b" := by decide
  exact ⟨compile_source doubled, compile_source spacedOut, probed, (alike.out 1 0).1 probed,
    (alike.out 1 2).1 probed, (alike.out 1 3).1 probed⟩

end SecretResolver.Template
