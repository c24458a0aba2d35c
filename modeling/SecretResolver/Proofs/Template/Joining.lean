import SecretResolver.Proofs.Template.Compile

set_option autoImplicit false

namespace SecretResolver.Template

def glue : List Piece → List Piece → List Piece
  | [], rest => rest
  | [.literal text], rest => addText text rest
  | piece :: pieces, rest => piece :: glue pieces rest

@[simp] theorem fill_nil (id : List Char) : fill id [] = [] :=
  rfl

theorem fill_cons (id : List Char) (piece : Piece) (pieces : List Piece) :
    fill id (piece :: pieces) = piece.fill id ++ fill id pieces :=
  rfl

theorem fill_addText (id text : List Char) (pieces : List Piece) :
    fill id (addText text pieces) = text ++ fill id pieces := by
  induction text with
  | nil => rfl
  | cons c cs ih =>
    change fill id (addChar c (addText cs pieces)) = c :: (cs ++ fill id pieces)
    rw [← ih]
    match addText cs pieces with
    | [] => rfl
    | .literal text :: pieces => rfl
    | .id :: pieces => rfl

theorem id_mem_addText {text : List Char} {pieces : List Piece} :
    .id ∈ addText text pieces ↔ .id ∈ pieces := by
  induction text with
  | nil => exact Iff.rfl
  | cons c cs ih =>
    change .id ∈ addChar c (addText cs pieces) ↔ _
    rw [← ih]
    match addText cs pieces with
    | [] => simp [addChar]
    | .literal text :: pieces => simp [addChar]
    | .id :: pieces => simp [addChar]

theorem fill_glue (id : List Char) (pieces rest : List Piece) :
    fill id (glue pieces rest) = fill id pieces ++ fill id rest := by
  fun_induction glue pieces rest with
  | case1 rest => rfl
  | case2 text rest => simp [fill_addText, fill_cons, Piece.fill, fill_nil]
  | case3 piece pieces rest other ih => rw [fill_cons, fill_cons, ih, List.append_assoc]

theorem id_mem_glue {pieces rest : List Piece} :
    .id ∈ glue pieces rest ↔ .id ∈ pieces ∨ .id ∈ rest := by
  fun_induction glue pieces rest with
  | case1 rest => simp
  | case2 text rest => simp [id_mem_addText]
  | case3 piece pieces rest other ih => simp [ih, or_assoc]

theorem glue_literalPieces (text : List Char) (rest : List Piece) :
    glue (literalPieces text) rest = addText text rest := by
  unfold literalPieces
  split
  · next empty =>
    rw [empty]
    rfl
  · rfl

theorem glue_id_cons (pieces rest : List Piece) :
    glue (.id :: pieces) rest = .id :: glue pieces rest := by
  rw [glue]
  simp

theorem glue_stretches_append (xs : List Stretch) (pieces rest : List Piece) :
    glue (xs.flatMap Stretch.pieces ++ pieces) rest =
      xs.flatMap Stretch.pieces ++ glue pieces rest := by
  induction xs with
  | nil => rfl
  | cons s xs ih =>
    rw [List.flatMap_cons, Stretch.pieces, literalPieces]
    split
    · simp [glue_id_cons, ih]
    · simp [glue, ih]

theorem scan_append {cs r : List Char} {pieces : List Piece} (scanned : scan cs = .ok pieces)
    (seam : cs.getLast? = some '{' → r.head? ≠ some '{') :
    scan (cs ++ r) = (scan r).map (glue pieces) := by
  obtain ⟨xs, last, noOpening, rfl⟩ := exists_stretches_of_scan scanned
  have pieces_eq : pieces = xs.flatMap Stretch.pieces ++ literalPieces last := by
    rw [scan_stretches_append, scan_literal noOpening] at scanned
    exact (Except.ok.inj scanned).symm
  have seam : last.getLast? = some '{' → r.head? ≠ some '{' := by
    intro brace
    apply seam
    rw [List.getLast?_append, brace, Option.some_or]
  rw [List.append_assoc, scan_stretches_append, scan_literal_append noOpening seam, pieces_eq]
  cases scan r with
  | error fault => rfl
  | ok rest =>
    change Except.ok (xs.flatMap Stretch.pieces ++ addText last rest) = _
    rw [← glue_literalPieces, ← glue_stretches_append]
    rfl

theorem exists_pieces_of_plain_start {t : Template} {start : List Char} {source : String}
    (plain : '{' ∉ start) (source_eq : t.source.toList = start ++ source.toList) :
    ∃ pieces, scan source.toList = .ok pieces ∧
      ∀ id, (t.locate id).toList = start ++ fill id.toList pieces := by
  have noOpening : ¬opening <:+: start := fun inside =>
    plain (inside.subset List.mem_cons_self)
  have seam : start.getLast? = some '{' → source.toList.head? ≠ some '{' := fun last =>
    absurd (List.mem_of_getLast? last) plain
  have scanned := t.scan_source
  rw [source_eq, scan_literal_append noOpening seam] at scanned
  cases rest : scan source.toList with
  | error fault =>
    rw [rest] at scanned
    cases scanned
  | ok pieces =>
    rw [rest] at scanned
    refine ⟨pieces, rfl, fun id => ?_⟩
    rw [locate, String.toList_ofList, ← Except.ok.inj scanned, fill_addText]

end SecretResolver.Template
