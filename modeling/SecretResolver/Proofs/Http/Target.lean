import Mathlib.Data.List.TakeWhile
import SecretResolver.Proofs.Text.Blanks
import SecretResolver.Vault.Server

set_option autoImplicit false

namespace SecretResolver

theorem eq_slash_of_toLower {c : Char} (h : c.toLower = '/') : c = '/' := by
  unfold Char.toLower at h
  split at h
  · next upper =>
    have value := congrArg Char.toNat h
    simp only [Char.toNat, UInt32.toNat_add] at value
    simp only [ge_iff_le, UInt32.le_iff_toNat_le] at upper
    have a : ('A' : Char).val.toNat = 65 := rfl
    have z : ('Z' : Char).val.toNat = 90 := rfl
    have slash : ('/' : Char).val.toNat = 47 := rfl
    have shift : (('a' : Char).val - ('A' : Char).val).toNat = 32 := rfl
    omega
  · exact h

namespace Http.Url

-- Where a single slash can stand in what ends in the two slashes of a scheme.
theorem append_slash_eq {w a z : List Char} (noSlash : '/' ∉ w)
    (same : a ++ '/' :: z = w ++ ['/', '/']) :
    (a = w ∧ z = ['/']) ∨ (a = w ++ ['/'] ∧ z = []) := by
  induction w generalizing a with
  | nil =>
    match a, same with
    | [], same => exact .inl ⟨rfl, (List.cons.inj same).2⟩
    | [x], same =>
      obtain ⟨rfl, rest⟩ := List.cons.inj same
      exact .inr ⟨rfl, (List.cons.inj rest).2⟩
    | x :: y :: a, same =>
      have lengths := congrArg List.length same
      simp at lengths
  | cons c w ih =>
    cases a with
    | nil =>
      obtain ⟨rfl, -⟩ := List.cons.inj same
      exact absurd List.mem_cons_self noSlash
    | cons x a =>
      obtain ⟨rfl, rest⟩ := List.cons.inj same
      rcases ih (fun mem => noSlash (List.mem_cons_of_mem _ mem)) rest with ⟨rfl, rfl⟩ | ⟨rfl, rfl⟩
      · exact .inl ⟨rfl, rfl⟩
      · exact .inr ⟨rfl, rfl⟩

section

variable {stem tail rest : List Char}

theorem rest_of_afterScheme? {scheme : String} {w : List Char}
    (doubled : scheme.toList = w ++ ['/', '/']) (noSlash : '/' ∉ w)
    (bare : stem.getLast? ≠ some '/')
    (h : afterScheme? scheme (stem ++ '/' :: 'v' :: tail) = some rest) :
    scheme.length ≤ stem.length ∧ rest = stem.drop scheme.length ++ '/' :: 'v' :: tail := by
  unfold afterScheme? at h
  split at h
  · next same =>
    have within : scheme.length ≤ stem.length := by
      apply Nat.le_of_not_lt
      intro less
      obtain ⟨m, m_eq⟩ := Nat.exists_eq_add_of_lt less
      have rest_length : scheme.length - stem.length = m + 1 := by omega
      rw [List.take_append, List.take_of_length_le (Nat.le_of_lt less), rest_length,
        List.take_succ_cons, List.map_append, List.map_cons, doubled] at same
      rcases append_slash_eq noSlash same with ⟨-, ends⟩ | ⟨ends, -⟩
      · cases m with
        | zero => cases ends
        | succ m => cases (List.cons.inj ends).1
      · cases last : stem.getLast? with
        | none =>
          rw [List.getLast?_eq_none_iff.1 last] at ends
          exact List.append_ne_nil_of_right_ne_nil w (List.cons_ne_nil _ _) ends.symm
        | some c =>
          have lower := congrArg List.getLast? ends
          rw [List.getLast?_map, last, List.getLast?_concat] at lower
          rw [eq_slash_of_toLower (Option.some.inj lower)] at last
          exact bare last
    refine ⟨within, ?_⟩
    rw [← Option.some.inj h, List.drop_append_of_le_length within]
  · cases h

theorem rest_of_splitScheme {secure : Bool} (bare : stem.getLast? ≠ some '/')
    (h : splitScheme (stem ++ '/' :: 'v' :: tail) = some (secure, rest)) :
    ∃ stem', stem' <:+ stem ∧ rest = stem' ++ '/' :: 'v' :: tail := by
  unfold splitScheme at h
  split at h
  · next plain =>
    cases h
    obtain ⟨-, rfl⟩ := rest_of_afterScheme? (w := "http:".toList) rfl (by decide) bare plain
    exact ⟨_, List.drop_suffix _ _, rfl⟩
  · obtain ⟨rest', encrypted, same⟩ := Option.map_eq_some_iff.1 h
    cases same
    obtain ⟨-, rfl⟩ := rest_of_afterScheme? (w := "https:".toList) rfl (by decide) bare encrypted
    exact ⟨_, List.drop_suffix _ _, rfl⟩

theorem suffix_dropWhile {p : Char → Bool} {x : Char} (stop : p x = false) (a b : List Char) :
    x :: b <:+ (a ++ x :: b).dropWhile p := by
  induction a with
  | nil =>
    have kept : (x :: b).dropWhile p = x :: b := List.dropWhile_cons_of_neg (by simp [stop])
    exact ⟨[], kept.symm⟩
  | cons c a ih =>
    rw [List.cons_append, List.dropWhile_cons]
    split
    · exact ih
    · exact ⟨c :: a, rfl⟩

theorem suffix_targetOf (cs : List Char) : cs <:+ targetOf cs := by
  unfold targetOf
  split
  · exact List.suffix_refl _
  · exact List.suffix_cons _ _

theorem suffix_of_afterScheme? {scheme : String} {cs : List Char}
    (h : afterScheme? scheme cs = some rest) : rest <:+ cs := by
  unfold afterScheme? at h
  split at h
  · cases h
    exact List.drop_suffix _ _
  · cases h

theorem suffix_of_splitScheme {secure : Bool} {cs : List Char}
    (h : splitScheme cs = some (secure, rest)) : rest <:+ cs := by
  unfold splitScheme at h
  split at h
  · next plain =>
    cases h
    exact suffix_of_afterScheme? plain
  · obtain ⟨rest', encrypted, same⟩ := Option.map_eq_some_iff.1 h
    cases same
    exact suffix_of_afterScheme? encrypted

theorem mem_text_of_mem_target {text : String} {url : Url} {c : Char} (h : read text = some url)
    (mem : c ∈ url.target.toList) (notSlash : c ≠ '/') : c ∈ text.toList := by
  unfold read at h
  obtain ⟨⟨secure, rest⟩, split, h⟩ := Option.bind_eq_some_iff.1 h
  dsimp only at h
  split at h
  · cases h
    rw [String.toList_ofList] at mem
    have inRest : c ∈ (rest.dropWhile fun c => !endsAuthority c).takeWhile (· != '#') := by
      unfold targetOf at mem
      split at mem
      · exact mem
      · exact (List.mem_cons.1 mem).resolve_left notSlash
    exact (suffix_of_splitScheme split).subset
      ((List.dropWhile_suffix _).subset ((List.takeWhile_prefix _).subset inRest))
  · cases h

theorem suffix_target_of_read {text : String} {url : Url} (bare : stem.getLast? ≠ some '/')
    (text_eq : text.toList = stem ++ '/' :: 'v' :: tail) (uncut : '#' ∉ text.toList)
    (h : read text = some url) : '/' :: 'v' :: tail <:+ url.target.toList := by
  unfold read at h
  obtain ⟨⟨secure, rest⟩, split, h⟩ := Option.bind_eq_some_iff.1 h
  rw [text_eq] at split
  obtain ⟨stem', stem_eq, rfl⟩ := rest_of_splitScheme bare split
  have whole (cs : List Char) (within : cs <:+ stem' ++ '/' :: 'v' :: tail) :
      cs.takeWhile (· != '#') = cs := by
    apply List.takeWhile_eq_self_iff.2
    intro c mem
    have inText : c ∈ text.toList := by
      rw [text_eq]
      rcases List.mem_append.1 (within.subset mem) with start | rest
      · exact List.mem_append_left _ (stem_eq.subset start)
      · exact List.mem_append_right _ rest
    simp only [bne_iff_ne]
    rintro rfl
    exact uncut inText
  dsimp only at h
  split at h
  · cases h
    rw [String.toList_ofList, whole _ (List.dropWhile_suffix _)]
    exact (suffix_dropWhile (by decide) _ _).trans (suffix_targetOf _)
  · cases h

end

end Http.Url

end SecretResolver
