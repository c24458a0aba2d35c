import SecretResolver.Proofs.Json.Fields
import SecretResolver.Vault.Answer

set_option autoImplicit false

namespace SecretResolver

namespace Json.Tree

theorem value?_eq_null_iff {depth : Nat} {tree : Tree} :
    value? depth tree = some .null ↔ tree = .null := by
  cases tree <;> cases depth <;> simp [value?]

theorem optional?_of_ne_null {α : Type} (read : Tree → Option α) {tree : Tree}
    (not_null : tree ≠ .null) : optional? read (some tree) = (read tree).map some := by
  cases tree <;> first | rfl | exact absurd rfl not_null

inductive HasOptional {α : Type} (field : Record.Field) (Reads : Tree → α → Prop) (tree : Tree) :
    Option α → Prop where
  | absent (has : tree.HasField field none) : HasOptional field Reads tree none
  | null (has : tree.HasField field (some .null)) : HasOptional field Reads tree none
  | given {written : Tree} {value : α} (has : tree.HasField field (some written))
      (reads : Reads written value) : HasOptional field Reads tree (some value)

theorem bind_optional?_eq_some_iff {α : Type} {field : Record.Field} {read : Tree → Option α}
    {Reads : Tree → α → Prop}
    (reads : ∀ tree value, Reads tree value ↔ tree ≠ .null ∧ read tree = some value)
    {tree : Tree} {value : Option α} :
    (fieldOf field tree).bind (optional? read) = some value ↔
      tree.HasOptional field Reads value := by
  constructor
  · intro found
    obtain ⟨written, found, read_eq⟩ := Option.bind_eq_some_iff.1 found
    have has := fieldOf_eq_some_iff.1 found
    cases written with
    | none =>
      cases read_eq
      exact .absent has
    | some written =>
      by_cases null : written = .null
      · subst null
        cases read_eq
        exact .null has
      · rw [optional?_of_ne_null read null] at read_eq
        obtain ⟨value, value_eq, rfl⟩ := Option.map_eq_some_iff.1 read_eq
        exact .given has ((reads _ _).2 ⟨null, value_eq⟩)
  · intro has
    cases has with
    | absent has => rw [fieldOf_eq_some_iff.2 has]; rfl
    | null has => rw [fieldOf_eq_some_iff.2 has]; rfl
    | @given written value has read_eq =>
      obtain ⟨not_null, read_eq⟩ := (reads _ _).1 read_eq
      rw [fieldOf_eq_some_iff.2 has, Option.bind_some, optional?_of_ne_null read not_null, read_eq]
      rfl

end Json.Tree

namespace Vault.Answer

open Json (Tree)

def HasData (bytes : List UInt8) (data : Option Json) : Prop :=
  ∃ tree, Tree.parse bytes = some tree ∧ tree.HasOptional { name := "data" }
    (fun written data => written.value? maxDataDepth = some data ∧ data ≠ .null) data

def HasToken (bytes : List UInt8) (token : Option Secret) : Prop :=
  ∃ tree, Tree.parse bytes = some tree ∧ tree.HasOptional { name := "auth" }
    (fun auth token => ∃ written, auth.HasField { name := "client_token" } (some written) ∧
      written.string? = some token.expose) token

inductive HasErrors (bytes : List UInt8) : List String → Prop where
  | absent {tree : Tree} (parsed : Tree.parse bytes = some tree)
      (field : tree.HasField { name := "errors", trailing := true } none) : HasErrors bytes []
  | given {tree : Tree} {items : List Tree} {errors : List String}
      (parsed : Tree.parse bytes = some tree)
      (field : tree.HasField { name := "errors", trailing := true } (some (.array items)))
      (spells : List.Forall₂ (fun item error => item.string? = some error) items errors) :
      HasErrors bytes errors

variable {bytes : List UInt8} {tree : Tree}

theorem errors?_eq_fieldOf (parsed : Tree.parse bytes = some tree) :
    errors? bytes = (Tree.fieldOf { name := "errors", trailing := true } tree).bind fun
      | none => some []
      | some errors => errors.items?.bind (·.mapM Tree.string?) := by
  rw [Tree.bind_fieldOf]
  unfold errors?
  rw [parsed]
  rfl

theorem token?_eq_fieldOf (parsed : Tree.parse bytes = some tree) :
    token? bytes =
      (Tree.fieldOf { name := "auth" } tree).bind (Tree.optional? token?.client) := by
  rw [Tree.bind_fieldOf]
  unfold token?
  rw [parsed]
  rfl

theorem client_eq_fieldOf (tree : Tree) :
    token?.client tree = (Tree.fieldOf { name := "client_token" } tree).bind fun token =>
      token.bind fun token => (Tree.string? token).bind fun text => some ⟨text⟩ := by
  rw [Tree.bind_fieldOf]
  rfl

theorem data?_eq_fieldOf (parsed : Tree.parse bytes = some tree) :
    data? bytes =
      (Tree.fieldOf { name := "data" } tree).bind (Tree.optional? (Tree.value? maxDataDepth)) := by
  rw [Tree.bind_fieldOf]
  unfold data?
  rw [parsed]
  rfl

theorem client_eq_some_iff {auth : Tree} {secret : Secret} : token?.client auth = some secret ↔
    ∃ written, auth.HasField { name := "client_token" } (some written) ∧
      written.string? = some secret.expose := by
  rw [client_eq_fieldOf]
  constructor
  · intro read
    obtain ⟨field, found, given⟩ := Option.bind_eq_some_iff.1 read
    obtain ⟨written, rfl, spelt⟩ := Option.bind_eq_some_iff.1 given
    obtain ⟨token, spells, same⟩ := Option.bind_eq_some_iff.1 spelt
    cases same
    exact ⟨written, Tree.fieldOf_eq_some_iff.1 found, spells⟩
  · rintro ⟨written, field, spells⟩
    simp [Tree.fieldOf_eq_some_iff.2 field, spells]

theorem data?_eq_some_iff {data : Option Json} : data? bytes = some data ↔ HasData bytes data := by
  have reads : ∀ (written : Tree) (data : Json),
      written.value? maxDataDepth = some data ∧ data ≠ .null ↔
        written ≠ .null ∧ written.value? maxDataDepth = some data := by
    intro written data
    have null_iff : written.value? maxDataDepth = some .null ↔ written = .null :=
      Tree.value?_eq_null_iff
    grind
  unfold HasData
  cases parsed : Tree.parse bytes with
  | none => simp [data?, parsed]
  | some tree => simp [data?_eq_fieldOf parsed, Tree.bind_optional?_eq_some_iff reads]

theorem token?_eq_some_iff {token : Option Secret} :
    token? bytes = some token ↔ HasToken bytes token := by
  have reads : ∀ auth secret, (∃ written : Tree,
      auth.HasField { name := "client_token" } (some written) ∧
        written.string? = some secret.expose) ↔
          auth ≠ .null ∧ token?.client auth = some secret := by
    intro auth secret
    rw [client_eq_some_iff, iff_and_self]
    rintro ⟨written, field, -⟩ rfl
    cases field with
    | named named => cases named
  unfold HasToken
  cases parsed : Tree.parse bytes with
  | none => simp [token?, parsed]
  | some tree => simp [token?_eq_fieldOf parsed, Tree.bind_optional?_eq_some_iff reads]

theorem errors?_eq_some_iff {errors : List String} :
    errors? bytes = some errors ↔ HasErrors bytes errors := by
  constructor
  · intro read
    cases parsed : Tree.parse bytes with
    | none => simp [errors?, parsed] at read
    | some tree =>
      rw [errors?_eq_fieldOf parsed] at read
      obtain ⟨written, found, read⟩ := Option.bind_eq_some_iff.1 read
      have field := Tree.fieldOf_eq_some_iff.1 found
      cases written with
      | none =>
        cases read
        exact .absent parsed field
      | some written =>
        obtain ⟨items, items_eq, read⟩ := Option.bind_eq_some_iff.1 read
        cases written with
        | array items' =>
          cases items_eq
          exact .given parsed field (mapM_eq_some_iff.1 read)
        | _ => cases items_eq
  · intro has
    cases has with
    | absent parsed field =>
      simp [errors?_eq_fieldOf parsed, Tree.fieldOf_eq_some_iff.2 field]
    | given parsed field spells =>
      simp [errors?_eq_fieldOf parsed, Tree.fieldOf_eq_some_iff.2 field, Tree.items?,
        mapM_eq_some_iff.2 spells]

end Vault.Answer

end SecretResolver
