import Mathlib.Data.List.DropRight
import SecretResolver.Text

set_option autoImplicit false

namespace SecretResolver.Text

structure Unpadded (cs : List Char) : Prop where
  head : ∀ c ∈ cs.head?, isBlank c = false
  last : ∀ c ∈ cs.getLast?, isBlank c = false

theorem dropEndWhile_prefix (p : Char → Bool) (cs : List Char) : dropEndWhile p cs <+: cs :=
  List.rdropWhile_prefix p cs

theorem getLast?_dropEndWhile {p : Char → Bool} {cs : List Char} {c : Char}
    (last : (dropEndWhile p cs).getLast? = some c) : p c = false := by
  rw [dropEndWhile, List.getLast?_reverse] at last
  have kept := List.head?_dropWhile_not p cs.reverse
  rw [last] at kept
  simpa using kept

theorem dropEndWhile_append {p : Char → Bool} {cs : List Char} {c : Char}
    (last : cs.getLast? = some c) (kept : p c = false) (ds : List Char) :
    dropEndWhile p (cs ++ ds) = cs ++ dropEndWhile p ds := by
  have start : cs.reverse.dropWhile p = cs.reverse := by
    apply dropWhile_eq_self
    intro d first
    rw [List.head?_reverse, last] at first
    exact Option.some.inj first ▸ kept
  unfold dropEndWhile
  rw [List.reverse_append, List.dropWhile_append]
  split
  · next all =>
    rw [start, List.reverse_reverse, List.isEmpty_iff.1 all, List.reverse_nil, List.append_nil]
  · rw [List.reverse_append, List.reverse_reverse]

theorem dropEndWhile_eq_self {p : Char → Bool} {cs : List Char}
    (last : ∀ c ∈ cs.getLast?, p c = false) : dropEndWhile p cs = cs := by
  have start : cs.reverse.dropWhile p = cs.reverse := by
    apply dropWhile_eq_self
    rwa [List.head?_reverse]
  rw [dropEndWhile, start, List.reverse_reverse]

theorem dropEndWhile_append_of_forall {p : Char → Bool} {ds : List Char}
    (dropped : ∀ c ∈ ds, p c = true) (cs : List Char) :
    dropEndWhile p (cs ++ ds) = dropEndWhile p cs := by
  have start : ∀ c ∈ ds.reverse, p c = true := fun c mem => dropped c (List.mem_reverse.1 mem)
  rw [dropEndWhile, List.reverse_append, List.dropWhile_append_of_pos start, ← dropEndWhile]

theorem trim_eq_nil_iff {cs : List Char} : trim cs = [] ↔ ∀ c ∈ cs, isBlank c := by
  constructor
  · intro empty c mem
    obtain ⟨before, after, blank, blank', cs_eq⟩ := exists_blanks_around_trim cs
    rw [cs_eq, empty, List.append_nil] at mem
    rcases List.mem_append.1 mem with mem | mem
    · exact blank c mem
    · exact blank' c mem
  · intro blank
    have dropped : (cs ++ []).dropWhile isBlank = [].dropWhile isBlank :=
      List.dropWhile_append_of_pos blank
    rw [List.append_nil] at dropped
    rw [trim, dropped]
    rfl

theorem unpadded_trim (cs : List Char) : Unpadded (trim cs) where
  head c first := by
    obtain ⟨rest, start⟩ := dropEndWhile_prefix isBlank (cs.dropWhile isBlank)
    have first : (cs.dropWhile isBlank).head? = some c := by
      rw [← start, List.head?_append, ← trim, Option.mem_def.1 first, Option.some_or]
    have kept := List.head?_dropWhile_not isBlank cs
    rw [first] at kept
    simpa using kept
  last _ := getLast?_dropEndWhile

theorem trim_eq_iff {cs middle : List Char} : trim cs = middle ↔ Unpadded middle ∧
    ∃ before after, (∀ c ∈ before, isBlank c) ∧ (∀ c ∈ after, isBlank c) ∧
      cs = before ++ middle ++ after := by
  constructor
  · rintro rfl
    exact ⟨unpadded_trim cs, exists_blanks_around_trim cs⟩
  · rintro ⟨unpadded, before, after, beforeBlank, afterBlank, rfl⟩
    by_cases empty : middle = []
    · subst empty
      rw [List.append_nil, trim_eq_nil_iff]
      intro c mem
      rcases List.mem_append.1 mem with mem | mem
      · exact beforeBlank c mem
      · exact afterBlank c mem
    · exact trim_append beforeBlank afterBlank unpadded.head unpadded.last empty

theorem trimmed_eq_iff {text middle : String} : trimmed text = middle ↔ Unpadded middle.toList ∧
    ∃ before after, (∀ c ∈ before, isBlank c) ∧ (∀ c ∈ after, isBlank c) ∧
      text.toList = before ++ middle.toList ++ after := by
  rw [← trim_eq_iff, trimmed, ← String.toList_inj, String.toList_ofList]

theorem trimmed_eq_empty_iff {text : String} :
    trimmed text = "" ↔ ∀ c ∈ text.toList, isBlank c := by
  rw [← trim_eq_nil_iff, trimmed, ← String.toList_inj, String.toList_ofList, String.toList_empty]

end SecretResolver.Text
