import SecretResolver.Proofs.Json.Members
import SecretResolver.Vault.Payload

set_option autoImplicit false

namespace SecretResolver.Vault

structure Wraps (outer : Json) (members : List (String × Json)) : Prop where
  data : outer.Has "data" (.object members)
  metadata : ∃ written, outer.Has "metadata" written

inductive LooksUp (data : Json) (field path : String) : Except Failure ByteArray → Prop where
  | text {value : String} (has : data.Has field (.string value)) :
      LooksUp data field path (.ok value.toUTF8)
  | notText {value : Json} (has : data.Has field value) (other : ∀ text, value ≠ .string text) :
      LooksUp data field path
        (.error (.fetch "vault" s!"field '{field}' at '{path}' is not a string"))
  | missing (without : ∀ value, ¬ data.Has field value) :
      LooksUp data field path (.error (.notFound s!"No field '{field}' at vault path '{path}'"))

namespace Payload

theorem inner_of_wraps {outer : Json} {members : List (String × Json)}
    (wraps : Wraps outer members) : inner outer = .object members := by
  obtain ⟨written, metadata⟩ := wraps.metadata
  simp only [inner, Json.get?_eq_some_iff.2 wraps.data, Json.get?_eq_some_iff.2 metadata]

theorem inner_of_bare {data : Json} (bare : ∀ members, ¬ Wraps data members) :
    inner data = data := by
  unfold inner
  split
  · next members written found beside =>
    exact absurd ⟨Json.get?_eq_some_iff.1 found, written, Json.get?_eq_some_iff.1 beside⟩
      (bare members)
  · rfl

theorem value_eq_iff {data : Json} {field path : String} {result : Except Failure ByteArray} :
    value data field path = result ↔ LooksUp (inner data) field path result := by
  unfold value
  cases found : (inner data).get? field with
  | none =>
    have without (written : Json) : ¬ (inner data).Has field written := by
      rw [← Json.get?_eq_some_iff, found]
      exact nofun
    constructor
    · rintro rfl
      exact .missing without
    · intro looksUp
      cases looksUp with
      | text has | notText has => exact absurd has (without _)
      | missing => rfl
  | some written =>
    have only {other : Json} (has : (inner data).Has field other) : written = other :=
      Option.some.inj (found.symm.trans (Json.get?_eq_some_iff.2 has))
    have has := Json.get?_eq_some_iff.1 found
    constructor
    · rintro rfl
      cases written with
      | string text => exact .text has
      | _ => exact .notText has fun _ => Json.noConfusion
    · intro looksUp
      cases looksUp with
      | text has => rw [only has]
      | notText has other =>
        obtain rfl := only has
        cases written with
        | string text => exact absurd rfl (other text)
        | _ => rfl
      | missing without => exact absurd has (without written)

theorem one_wrapping_taken_off (field path : String) :
    (∀ outer members, Wraps outer members → ∀ result,
      value outer field path = result ↔ LooksUp (.object members) field path result) ∧
    (∀ data, (∀ members, ¬ Wraps data members) → ∀ result,
      value data field path = result ↔ LooksUp data field path result) ∧
    ∀ outer members, Wraps outer members → (∀ deeper, ¬ Wraps (.object members) deeper) →
      value outer field path = value (.object members) field path := by
  refine ⟨?_, ?_, ?_⟩
  · intro outer members wraps result
    rw [value_eq_iff, inner_of_wraps wraps]
  · intro data bare result
    rw [value_eq_iff, inner_of_bare bare]
  · intro outer members wraps bare
    have direct := value_eq_iff.1 (rfl : value (.object members) field path = _)
    rw [inner_of_bare bare] at direct
    rw [value_eq_iff, inner_of_wraps wraps]
    exact direct

end Payload

end SecretResolver.Vault
