import Mathlib.Data.List.Forall2
import SecretResolver.Json.Value

set_option autoImplicit false

namespace SecretResolver

theorem mapM_eq_some_iff {α β : Type} {f : α → Option β} {items : List α} {results : List β} :
    items.mapM f = some results ↔
      List.Forall₂ (fun item result => f item = some result) items results := by
  induction items generalizing results with
  | nil => cases results <;> simp
  | cons item items ih =>
    cases results with
    | nil => simp [Option.bind_eq_some_iff]
    | cons result results => simp [Option.bind_eq_some_iff, ih]

namespace Record

variable {α : Type} {name : String} {entries : List (String × α)}

theorem only?_eq_absent_iff :
    only? name entries = some none ↔ ∀ entry ∈ entries, entry.1 ≠ name := by
  unfold only?
  constructor
  · intro absent
    split at absent
    · next none_named => simpa [List.filter_eq_nil_iff] using none_named
    · cases absent
    · cases absent
  · intro absent
    have none_named : entries.filter (·.1 == name) = [] := by
      simpa [List.filter_eq_nil_iff] using absent
    rw [none_named]

theorem only?_eq_given_iff {value : α} : only? name entries = some (some value) ↔
    ∃ before after, entries = before ++ (name, value) :: after ∧
      ∀ other ∈ before ++ after, other.1 ≠ name := by
  unfold only?
  constructor
  · intro given
    split at given
    · cases given
    · next named value' once =>
      cases given
      obtain ⟨before, after, rfl, apart, same, apart'⟩ := List.filter_eq_cons_iff.1 once
      obtain rfl := beq_iff_eq.1 same
      refine ⟨before, after, rfl, ?_⟩
      intro other mem
      rcases List.mem_append.1 mem with mem | mem
      · simpa using apart other mem
      · simpa using List.filter_eq_nil_iff.1 apart' other mem
    · cases given
  · rintro ⟨before, after, rfl, apart⟩
    have first : before.filter (·.1 == name) = [] :=
      List.filter_eq_nil_iff.2 fun other mem => by
        simpa using apart other (List.mem_append_left _ mem)
    have rest : after.filter (·.1 == name) = [] :=
      List.filter_eq_nil_iff.2 fun other mem => by
        simpa using apart other (List.mem_append_right _ mem)
    simp [first, rest]

end Record

namespace Json.Tree

def fieldOf (field : Record.Field) (tree : Tree) : Option (Option Tree) := do
  let [value] ← (← tree.record?).arrange [field] | none
  some value

theorem bind_fieldOf {α : Type} (field : Record.Field) (tree : Tree)
    (next : Option Tree → Option α) : (fieldOf field tree).bind next =
      tree.record?.bind fun record => (record.arrange [field]).bind fun
        | [value] => next value
        | _ => none := by
  unfold fieldOf
  simp only [Option.bind_eq_bind, Option.bind_assoc]
  congr 1
  funext record
  congr 1
  funext fields
  rcases fields with _ | ⟨value, _ | _⟩ <;> rfl

inductive HasField (field : Record.Field) : Tree → Option Tree → Prop where
  | absent {tree : Tree} {entries : List (String × Tree)} (named : tree.members? = some entries)
      (apart : ∀ entry ∈ entries, entry.1 ≠ field.name) : HasField field tree none
  | named {tree value : Tree} {before after : List (String × Tree)}
      (named : tree.members? = some (before ++ (field.name, value) :: after))
      (apart : ∀ other ∈ before ++ after, other.1 ≠ field.name) : HasField field tree (some value)
  | listed (value : Tree) : HasField field (.array [value]) (some value)
  | leftOut (trailing : field.trailing) : HasField field (.array []) none

theorem fieldOf_named {field : Record.Field} {tree : Tree} {entries : List (String × Tree)}
    (named : tree.members? = some entries) :
    fieldOf field tree = Record.only? field.name entries := by
  have record_eq : tree.record? = some (.named entries) := by
    cases tree with
    | object members => simp [record?, named]
    | _ => cases named
  rw [fieldOf, record_eq]
  cases found : Record.only? field.name entries <;> simp [Record.arrange, found]

theorem hasField_of_fieldOf {field : Record.Field} {tree : Tree} {written : Option Tree}
    (found : fieldOf field tree = some written) : HasField field tree written := by
  cases tree with
  | array items =>
    rcases items with _ | ⟨value, _ | ⟨other, items⟩⟩
    · cases trailing : field.trailing <;>
        simp [fieldOf, record?, Record.arrange, Record.zipFields, trailing] at found
      subst found
      exact .leftOut trailing
    · cases found
      exact .listed value
    · cases found
  | object members =>
    cases named : (object members).members? with
    | none => simp [fieldOf, record?, named] at found
    | some entries =>
      rw [fieldOf_named named] at found
      cases written with
      | none => exact .absent named (Record.only?_eq_absent_iff.1 found)
      | some value =>
        obtain ⟨before, after, rfl, apart⟩ := Record.only?_eq_given_iff.1 found
        exact .named named apart
  | _ => cases found

theorem HasField.fieldOf_eq {field : Record.Field} {tree : Tree} {written : Option Tree}
    (has : HasField field tree written) : fieldOf field tree = some written := by
  cases has with
  | absent named apart =>
    rw [fieldOf_named named]
    exact Record.only?_eq_absent_iff.2 apart
  | named named apart =>
    rw [fieldOf_named named]
    exact Record.only?_eq_given_iff.2 ⟨_, _, rfl, apart⟩
  | listed value => rfl
  | leftOut trailing => simp [fieldOf, record?, Record.arrange, Record.zipFields, trailing]

theorem fieldOf_eq_some_iff {field : Record.Field} {tree : Tree} {written : Option Tree} :
    fieldOf field tree = some written ↔ HasField field tree written :=
  ⟨hasField_of_fieldOf, HasField.fieldOf_eq⟩

end Json.Tree

end SecretResolver
