import Mathlib.Data.List.Induction
import SecretResolver.Json.Value

set_option autoImplicit false

namespace SecretResolver.Json

theorem lastOf_eq_lookup_reverse {α : Type} (name : String) (members : List (String × α)) :
    lastOf name members = members.reverse.lookup name := by
  induction members using List.reverseRecOn with
  | nil => rfl
  | append_singleton members member ih =>
    obtain ⟨key, value⟩ := member
    rw [lastOf_append, List.reverse_append, List.reverse_singleton, List.singleton_append,
      List.lookup_cons, ih]
    by_cases same : key = name
    · subst same
      simp
    · have differs : (name == key) = false := beq_eq_false_iff_ne.2 (Ne.symm same)
      simp [same, differs]

theorem lastOf_eq_some_iff {α : Type} {name : String} {members : List (String × α)} {value : α} :
    lastOf name members = some value ↔ ∃ before after, members = before ++ (name, value) :: after ∧
      ∀ member ∈ after, member.1 ≠ name := by
  rw [lastOf_eq_lookup_reverse, List.lookup_eq_some_iff]
  constructor
  · rintro ⟨after, before, reversed, apart⟩
    refine ⟨before.reverse, after.reverse, ?_, ?_⟩
    · rw [← List.reverse_reverse members, reversed]
      simp
    · intro member mem
      simpa using Ne.symm (bne_iff_ne.1 (apart member (List.mem_reverse.1 mem)))
  · rintro ⟨before, after, rfl, apart⟩
    refine ⟨after.reverse, before.reverse, by simp, ?_⟩
    intro member mem
    exact bne_iff_ne.2 (Ne.symm (apart member (List.mem_reverse.1 mem)))

theorem lastOf_eq_none_iff {α : Type} {name : String} {members : List (String × α)} :
    lastOf name members = none ↔ ∀ member ∈ members, member.1 ≠ name := by
  rw [lastOf_eq_lookup_reverse, List.lookup_eq_none_iff]
  simp only [List.mem_reverse, bne_iff_ne, ne_comm]

inductive Has : (data : Json) → (name : String) → (value : Json) → Prop where
  | intro {name : String} {value : Json} (before after : List (String × Json))
      (last : ∀ member ∈ after, member.1 ≠ name) :
      Has (.object (before ++ (name, value) :: after)) name value

theorem get?_eq_some_iff {name : String} {data value : Json} :
    data.get? name = some value ↔ data.Has name value := by
  constructor
  · intro found
    cases data with
    | object members =>
      obtain ⟨before, after, rfl, last⟩ := lastOf_eq_some_iff.1 found
      exact .intro before after last
    | _ => cases found
  · intro has
    cases has with
    | intro before after last => exact lastOf_eq_some_iff.2 ⟨before, after, rfl, last⟩

end SecretResolver.Json
