import SecretResolver.Proofs.Template.Joining

set_option autoImplicit false

namespace SecretResolver.Template

def nest (inner : List Piece) : List Piece → List Piece
  | [] => []
  | .literal text :: pieces => addText text (nest inner pieces)
  | .id :: pieces => glue inner (nest inner pieces)

theorem fill_nest (id : List Char) (inner pieces : List Piece) :
    fill id (nest inner pieces) = fill (fill id inner) pieces := by
  induction pieces with
  | nil => rfl
  | cons piece pieces ih =>
    cases piece with
    | literal text => rw [nest, fill_addText, ih, fill_cons, Piece.fill]
    | id => rw [nest, fill_glue, ih, fill_cons, Piece.fill]

theorem id_mem_nest {inner pieces : List Piece} (innerMem : .id ∈ inner) (mem : .id ∈ pieces) :
    .id ∈ nest inner pieces := by
  induction pieces with
  | nil => cases mem
  | cons piece pieces ih =>
    cases piece with
    | literal text =>
      rcases List.mem_cons.1 mem with same | mem
      · cases same
      · exact id_mem_addText.2 (ih mem)
    | id => exact id_mem_glue.2 (.inl innerMem)

theorem nest_literalPieces_append (inner : List Piece) (text : List Char) (pieces : List Piece) :
    nest inner (literalPieces text ++ pieces) = addText text (nest inner pieces) := by
  unfold literalPieces
  split
  · next empty =>
    rw [empty]
    rfl
  · rfl

theorem nest_literalPieces (inner : List Piece) (text : List Char) :
    nest inner (literalPieces text) = literalPieces text := by
  have nested := nest_literalPieces_append inner text []
  rw [List.append_nil] at nested
  rw [nested, nest, addText_of_no_literal (by simp), List.append_nil]

theorem nest_stretch_append (inner : List Piece) (s : Stretch) (pieces : List Piece) :
    nest inner (s.pieces ++ pieces) = addText s.literal (glue inner (nest inner pieces)) := by
  rw [Stretch.pieces, List.append_assoc, nest_literalPieces_append]
  rfl

theorem nest_id (d : Decomposition) : nest [.id] d.pieces = d.pieces := by
  unfold Decomposition.pieces
  induction d.stretches with
  | nil => exact nest_literalPieces _ _
  | cons s xs ih =>
    rw [List.flatMap_cons, List.append_assoc, nest_stretch_append, ih, glue_id_cons, glue,
      addText_of_no_literal (by simp), Stretch.pieces]
    simp

section

variable {inner : List Char} {pieces : List Piece}

-- No literal of the outer text ends in a brace where the inner text begins, and the inner text does
-- not end in one: each seam keeps the pieces of both sides.
theorem Decomposition.scan_fill (d : Decomposition) (scanned : scan inner = .ok pieces)
    (closed : inner.getLast? ≠ some '{') : scan (d.fill inner) = .ok (nest pieces d.pieces) := by
  unfold Decomposition.fill Decomposition.pieces
  induction d.stretches with
  | nil =>
    change scan d.last = .ok (nest pieces (literalPieces d.last))
    rw [nest_literalPieces, scan_literal d.no_opening]
  | cons s xs ih =>
    rw [List.flatMap_cons, List.flatMap_cons, List.append_assoc, List.append_assoc,
      List.append_assoc, nest_stretch_append, scan_literal_append s.no_opening
        (fun last => absurd last s.no_brace_last), scan_append scanned
        (fun last => absurd last closed), ih]
    rfl

end

theorem exists_decomposition (t : Template) :
    ∃ d : Decomposition, d.text = t.source.toList ∧ t.pieces = d.pieces := by
  obtain ⟨d, text_eq⟩ := exists_compile_iff.1 ⟨t, compile_source t⟩
  exact ⟨d, text_eq, pieces_eq_of_text_eq text_eq⟩

theorem scan_locate {t u : Template} (closed : u.source.toList.getLast? ≠ some '{') :
    scan (t.locate u.source).toList = .ok (nest u.pieces t.pieces) := by
  obtain ⟨d, -, pieces_eq⟩ := t.exists_decomposition
  rw [locate, String.toList_ofList, pieces_eq, d.fill_pieces]
  exact d.scan_fill u.scan_source closed

def nested (t u : Template) (closed : u.source.toList.getLast? ≠ some '{') : Template :=
  ofScan (t.locate u.source) (nest u.pieces t.pieces) (scan_locate closed)
    (id_mem_nest u.id_mem t.id_mem)

theorem locate_nested (t u : Template) (closed : u.source.toList.getLast? ≠ some '{')
    (id : String) : (t.nested u closed).locate id = t.locate (u.locate id) := by
  simp only [locate, nested, ofScan, fill_nest, String.toList_ofList]

def canonical (t : Template) : Template :=
  t.nested byId (by decide)

theorem pieces_canonical (t : Template) : t.canonical.pieces = t.pieces := by
  obtain ⟨d, -, pieces_eq⟩ := t.exists_decomposition
  change nest [.id] t.pieces = t.pieces
  rw [pieces_eq, nest_id]

theorem locate_congr {t u : Template} (pieces_eq : t.pieces = u.pieces) (id : String) :
    t.locate id = u.locate id := by
  rw [locate, locate, pieces_eq]

theorem source_canonical_eq_iff {t u : Template} :
    t.canonical.source = u.canonical.source ↔ t.pieces = u.pieces := by
  constructor
  · intro same
    have compiled : compile u.canonical.source = .ok t.canonical := compile_eq_ok_iff.2 same
    rw [compile_source] at compiled
    rw [← t.pieces_canonical, ← u.pieces_canonical, Except.ok.inj compiled]
  · intro pieces_eq
    exact locate_congr pieces_eq _

-- What comes back has the canonical text for its own, whatever the blanks of the original were.
theorem nested_and_canonical :
    (∀ outer inner t u, compile outer = .ok t → compile inner = .ok u →
      inner.toList.getLast? ≠ some '{' →
        ∃ n, compile (t.locate inner) = .ok n ∧ ∀ id, n.locate id = t.locate (u.locate id)) ∧
      ∀ source t, compile source = .ok t →
        ∃ n, compile (t.locate "\x7b\x7b .ID \x7d\x7d") = .ok n ∧ n.pieces = t.pieces ∧
          (∀ id, n.locate id = t.locate id) ∧ n.locate "\x7b\x7b .ID \x7d\x7d" = n.source ∧
          ∀ source' t', compile source' = .ok t' →
            (compile (t'.locate "\x7b\x7b .ID \x7d\x7d") = .ok n ↔ t'.pieces = t.pieces) := by
  constructor
  · intro outer inner t u outer_eq inner_eq closed
    obtain rfl := source_of_compile inner_eq
    exact ⟨t.nested u closed, compile_source (t.nested u closed), t.locate_nested u closed⟩
  · intro source t _
    refine ⟨t.canonical, compile_source t.canonical, t.pieces_canonical,
      locate_congr t.pieces_canonical, locate_congr t.pieces_canonical _, ?_⟩
    intro source' t' _
    rw [compile_eq_ok_iff, eq_comm (a := t'.pieces)]
    exact source_canonical_eq_iff

def doubled : Template :=
  ofScan "\x7b-\x7b\x7b.ID\x7d\x7d\x7b\x7b.ID\x7d\x7d\x7b"
    [.literal ['{', '-'], .id, .id, .literal ['{']] (by cbv) (by decide)

def braced : Template :=
  ofScan "\x7b/\x7b\x7b\t.ID\x7d\x7d/\x7bx"
    [.literal ['{', '/'], .id, .literal ['/', '{', 'x']] (by cbv) (by decide)

theorem nested_and_canonical_seams :
    braced.source.toList.getLast? ≠ some '{' ∧
      (∃ n, compile ("\x7b-\x7b/\x7b\x7b\t.ID\x7d\x7d/\x7bx" ++
          "\x7b/\x7b\x7b\t.ID\x7d\x7d/\x7bx\x7b") = .ok n ∧
        n.locate "k" = "\x7b-\x7b/k/\x7bx\x7b/k/\x7bx\x7b") ∧
      ∃ n, compile "\x7b-\x7b\x7b .ID \x7d\x7d\x7b\x7b .ID \x7d\x7d\x7b" = .ok n ∧
        n.pieces = doubled.pieces := by
  obtain ⟨nests, prints⟩ := nested_and_canonical
  have closed : braced.source.toList.getLast? ≠ some '{' := by decide
  obtain ⟨n, compiled, located⟩ :=
    nests _ _ doubled braced (compile_source _) (compile_source _) closed
  obtain ⟨n', compiled', pieces_eq, -⟩ := prints _ doubled (compile_source _)
  refine ⟨closed, ⟨n, ?_, (located "k").trans (by cbv)⟩, n', ?_, pieces_eq⟩
  · rw [← compiled]
    cbv
  · rw [← compiled']
    cbv

end SecretResolver.Template
