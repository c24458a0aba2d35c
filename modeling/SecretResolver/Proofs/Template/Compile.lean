import SecretResolver.Proofs.Template.Scan

set_option autoImplicit false

namespace SecretResolver.Template

theorem exists_ok_of_map {ε α β : Type} {f : α → β} {e : Except ε α} {b : β}
    (h : e.map f = .ok b) : ∃ a, e = .ok a := by
  cases e with
  | error fault => cases h
  | ok a => exact ⟨a, rfl⟩

theorem checkAction_eq_ok_iff {body : List Char} : checkAction body = .ok () ↔ body = idName := by
  unfold checkAction
  split
  · next h => exact ⟨fun _ => h, fun _ => rfl⟩
  · next h =>
    constructor
    · intro ok
      split at ok <;> cases ok
    · intro same
      exact absurd same h

theorem exists_stretches_of_scan {cs : List Char} {pieces : List Piece}
    (h : scan cs = .ok pieces) : ∃ (xs : List Stretch) (last : List Char),
      ¬opening <:+: last ∧ cs = xs.flatMap Stretch.text ++ last := by
  fun_induction scan cs generalizing pieces with
  | case1 => exact ⟨[], [], by decide, rfl⟩
  | case2 => cases h
  | case3 => cases h
  | case4 cs body rest split checked ih =>
    obtain ⟨inner, scanned⟩ := exists_ok_of_map h
    obtain ⟨xs, last, noOpening, rest_eq⟩ := ih scanned
    obtain ⟨cs_eq, noBrace⟩ := eq_append_of_splitAction split
    have isAction : IsAction (opening ++ body ++ closing) :=
      isAction_iff.2 ⟨body, noBrace, checkAction_eq_ok_iff.1 checked, rfl⟩
    let first : Stretch := ⟨[], opening ++ body ++ closing, by decide, by decide, isAction⟩
    refine ⟨first :: xs, last, noOpening, ?_⟩
    rw [cs_eq, rest_eq]
    simp [first, Stretch.text, opening, closing]
  | case5 c cs other ih =>
    obtain ⟨inner, scanned⟩ := exists_ok_of_map h
    obtain ⟨xs, last, noOpening, cs_eq⟩ := ih scanned
    rw [cs_eq]
    apply exists_stretches_cons noOpening
    rintro ⟨rfl, head⟩
    obtain ⟨cs', rest⟩ := List.head?_eq_some_iff.1 (cs_eq ▸ head)
    exact other cs' rfl rest

theorem compile_eq_ok_iff {source : String} {t : Template} :
    compile source = .ok t ↔ t.source = source := by
  constructor
  · exact source_of_compile
  · rintro rfl
    exact compile_source t

theorem id_mem_flatMap_pieces {xs : List Stretch} (nonempty : xs ≠ []) (pieces : List Piece) :
    .id ∈ xs.flatMap Stretch.pieces ++ pieces := by
  obtain ⟨s, xs, rfl⟩ := List.exists_cons_of_ne_nil nonempty
  simp [Stretch.pieces]

theorem exists_compile_iff {source : String} :
    (∃ t, compile source = .ok t) ↔ ∃ d : Decomposition, d.text = source.toList := by
  constructor
  · rintro ⟨t, compiled⟩
    obtain rfl := compile_eq_ok_iff.1 compiled
    obtain ⟨xs, last, noOpening, text_eq⟩ := exists_stretches_of_scan t.scan_source
    refine ⟨⟨xs, last, ?_, noOpening⟩, text_eq.symm⟩
    -- without an action there is only a literal, and no place for the ID
    rintro rfl
    have scanned : scan last = .ok t.pieces := by
      rw [← t.scan_source, text_eq]
      rfl
    obtain pieces_eq := Except.ok.inj (scanned.symm.trans (scan_literal noOpening))
    have mem := t.id_mem
    rw [pieces_eq, literalPieces] at mem
    split at mem <;> simp at mem
  · rintro ⟨d, text_eq⟩
    have scanned : scan source.toList = .ok d.pieces := text_eq ▸ d.scan_text
    exact ⟨ofScan source d.pieces scanned (id_mem_flatMap_pieces d.nonempty _),
      compile_eq_ok_iff.2 rfl⟩

theorem pieces_eq_of_text_eq {t : Template} {d : Decomposition}
    (text_eq : d.text = t.source.toList) : t.pieces = d.pieces := by
  have scanned := t.scan_source
  rw [← text_eq, d.scan_text] at scanned
  exact (Except.ok.inj scanned).symm

theorem fill_append (id : List Char) (ps qs : List Piece) :
    fill id (ps ++ qs) = fill id ps ++ fill id qs :=
  List.flatMap_append

theorem fill_literalPieces (id text : List Char) : fill id (literalPieces text) = text := by
  unfold literalPieces
  split
  · next empty => exact empty.symm
  · simp [fill, Piece.fill]

theorem fill_stretches (id : List Char) (xs : List Stretch) :
    fill id (xs.flatMap Stretch.pieces) = xs.flatMap (fun s => s.literal ++ id) := by
  induction xs with
  | nil => rfl
  | cons s xs ih =>
    rw [List.flatMap_cons, fill_append, ih, Stretch.pieces, fill_append, fill_literalPieces]
    simp [fill, Piece.fill]

theorem Decomposition.fill_pieces (d : Decomposition) (id : List Char) :
    Template.fill id d.pieces = d.fill id := by
  rw [Decomposition.pieces, fill_append, fill_stretches, fill_literalPieces]
  rfl

structure Canonical (pieces : List Piece) : Prop where
  no_empty : .literal [] ∉ pieces
  no_adjacent : ∀ text text', ¬[.literal text, .literal text'] <:+: pieces

theorem canonical_literalPieces (text : List Char) : Canonical (literalPieces text) := by
  unfold literalPieces
  split
  · exact ⟨List.not_mem_nil, fun text text' inside => by simpa using inside.length_le⟩
  · next nonempty =>
    refine ⟨?_, fun text text' inside => by simpa using inside.length_le⟩
    intro mem
    exact nonempty (Piece.literal.inj (List.mem_singleton.1 mem)).symm

theorem Canonical.id_cons {pieces : List Piece} (h : Canonical pieces) :
    Canonical (.id :: pieces) := by
  refine ⟨?_, ?_⟩
  · intro mem
    rcases List.mem_cons.1 mem with same | mem
    · cases same
    · exact h.no_empty mem
  · intro text text' inside
    rcases List.infix_cons_iff.1 inside with start | inside
    · cases (List.cons_prefix_cons.1 start).1
    · exact h.no_adjacent text text' inside

theorem Canonical.stretch_append {pieces : List Piece} (h : Canonical pieces) (s : Stretch) :
    Canonical (s.pieces ++ pieces) := by
  have rest : Canonical (.id :: pieces) := h.id_cons
  rw [Stretch.pieces, List.append_assoc, List.singleton_append]
  by_cases empty : s.literal = []
  · rw [literalPieces, if_pos empty]
    exact rest
  · rw [literalPieces, if_neg empty, List.singleton_append]
    refine ⟨?_, ?_⟩
    · intro mem
      rcases List.mem_cons.1 mem with same | mem
      · exact empty (Piece.literal.inj same).symm
      · exact rest.no_empty mem
    · intro text text' inside
      rcases List.infix_cons_iff.1 inside with start | inside
      · cases (List.cons_prefix_cons.1 (List.cons_prefix_cons.1 start).2).1
      · exact rest.no_adjacent text text' inside

theorem Decomposition.canonical_pieces (d : Decomposition) : Canonical d.pieces := by
  unfold Decomposition.pieces
  induction d.stretches with
  | nil => exact canonical_literalPieces d.last
  | cons s xs ih =>
    rw [List.flatMap_cons, List.append_assoc]
    exact ih.stretch_append s

theorem compile_decomposition (source : String) :
    ((∃ t, compile source = .ok t) ↔ ∃ d : Decomposition, d.text = source.toList) ∧
      ∀ t, compile source = .ok t → t.source = source ∧
        ∃ d : Decomposition, d.text = source.toList ∧
          (∀ d' : Decomposition, d'.text = source.toList → d' = d) ∧
          t.pieces = d.pieces ∧ Canonical t.pieces ∧
          ∀ id : String, (t.locate id).toList = d.fill id.toList := by
  refine ⟨exists_compile_iff, ?_⟩
  intro t compiled
  obtain rfl := compile_eq_ok_iff.1 compiled
  obtain ⟨d, text_eq⟩ := exists_compile_iff.1 ⟨t, compiled⟩
  have pieces_eq : t.pieces = d.pieces := pieces_eq_of_text_eq text_eq
  refine ⟨rfl, d, text_eq, ?_, pieces_eq, pieces_eq ▸ d.canonical_pieces, ?_⟩
  · intro d' text_eq'
    exact Decomposition.text_injective (text_eq'.trans text_eq.symm)
  · intro id
    rw [locate, String.toList_ofList, pieces_eq, d.fill_pieces]

def bracedDecomposition : Decomposition where
  stretches := [
    { literal := ['a', '{', '/']
      action := ['{', '{', ' ', '.', 'I', 'D', '}', '}']
      no_opening := by decide
      no_brace_last := by decide
      isAction := ⟨[' '], [], List.forall_mem_singleton.2 rfl, List.forall_mem_nil _, rfl⟩ }]
  last := ['}', '{']
  nonempty := by decide
  no_opening := by decide

theorem compile_decomposition_braces :
    ∃ t, compile "a\x7b/\x7b\x7b .ID\x7d\x7d\x7d\x7b" = .ok t ∧
      t.pieces = bracedDecomposition.pieces ∧
      (t.locate "\x7b\x7b").toList = bracedDecomposition.fill ['{', '{'] := by
  have split := compile_decomposition "a\x7b/\x7b\x7b .ID\x7d\x7d\x7d\x7b"
  obtain ⟨t, compiled⟩ := split.1.2 ⟨bracedDecomposition, rfl⟩
  obtain ⟨-, d, -, unique, pieces_eq, -, filled⟩ := split.2 t compiled
  obtain rfl := unique bracedDecomposition rfl
  exact ⟨t, compiled, pieces_eq, filled _⟩

def byId : Template :=
  ofScan "\x7b\x7b .ID \x7d\x7d" [.id] (by cbv) (by decide)

end SecretResolver.Template
