import SecretResolver.Proofs.Template.Nesting

set_option autoImplicit false

namespace SecretResolver.Template

inductive Renders (source : String) : (String → String) → Prop where
  | template {t : Template} (compiled : compile source = .ok t) : Renders source t.locate
  | plain (noOpening : ¬opening <:+: source.toList) : Renders source fun _ => source

section

variable {s t : String} {f g : String → String}

theorem Renders.exists_pieces (renders : Renders s f) : ∃ pieces, scan s.toList = .ok pieces ∧
    (∀ id, (f id).toList = fill id.toList pieces) ∧
      ((∃ u, compile s = .ok u) → .id ∈ pieces) := by
  cases renders with
  | @template u compiled =>
    obtain rfl := source_of_compile compiled
    exact ⟨u.pieces, u.scan_source, fun _ => String.toList_ofList, fun _ => u.id_mem⟩
  | plain noOpening =>
    refine ⟨literalPieces s.toList, scan_literal noOpening, ?_, ?_⟩
    · intro id
      rw [fill_literalPieces]
    · rintro ⟨u, compiled⟩
      obtain ⟨d, text_eq⟩ := exists_compile_iff.1 ⟨u, compiled⟩
      obtain ⟨first, others, stretches_eq⟩ := List.exists_cons_of_ne_nil d.nonempty
      rw [← text_eq, Decomposition.text, stretches_eq, List.flatMap_cons, List.append_assoc]
        at noOpening
      exact absurd (first.opening_infix_text_append _) noOpening

theorem compile_append (left : Renders s f) (right : Renders t g)
    (accepted : (∃ u, compile s = .ok u) ∨ ∃ u, compile t = .ok u)
    (seam : ¬(s.toList.getLast? = some '{' ∧ t.toList.head? = some '{')) :
    ∃ n, compile (s ++ t) = .ok n ∧ ∀ id, n.locate id = f id ++ g id := by
  obtain ⟨ps, scanned, filled, hasId⟩ := left.exists_pieces
  obtain ⟨qs, scanned', filled', hasId'⟩ := right.exists_pieces
  have joined : scan (s ++ t).toList = .ok (glue ps qs) := by
    rw [String.toList_append, scan_append scanned fun last head => seam ⟨last, head⟩, scanned']
    rfl
  have mem : .id ∈ glue ps qs := id_mem_glue.2 (accepted.imp hasId hasId')
  refine ⟨ofScan (s ++ t) (glue ps qs) joined mem, compile_eq_ok_iff.2 rfl, ?_⟩
  intro id
  apply String.toList_injective
  rw [locate, String.toList_ofList, ofScan, fill_glue, String.toList_append, filled, filled']

end

theorem compile_append_doubled :
    (∃ n, compile (doubled.source ++ "\x7d\x7d/") = .ok n ∧
        n.locate "k" = "\x7b-kk\x7b\x7d\x7d/") ∧
      ∃ n, compile (byId.source ++ braced.source) = .ok n ∧
        ∀ id, n.locate id = byId.locate id ++ braced.locate id := by
  have doubled_eq := compile_source doubled
  have byId_eq := compile_source byId
  have unpaired : Renders "\x7d\x7d/" fun _ => "\x7d\x7d/" := .plain (by decide)
  constructor
  · obtain ⟨n, compiled, located⟩ := compile_append (.template doubled_eq) unpaired
      (.inl ⟨_, doubled_eq⟩) (by decide)
    exact ⟨n, compiled, (located "k").trans (by decide)⟩
  · exact compile_append (.template byId_eq) (.template (compile_source braced))
      (.inl ⟨_, byId_eq⟩) (by decide)

end SecretResolver.Template
