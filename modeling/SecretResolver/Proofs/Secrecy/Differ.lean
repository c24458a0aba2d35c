import Mathlib.Data.List.Forall2
import Mathlib.Data.List.Induction
import Mathlib.Data.Option.Basic
import SecretResolver.Proofs.Json.Fields

set_option autoImplicit false

namespace SecretResolver

theorem cases_of_rel {α α' : Type} {S : α → α' → Prop} {given : Option α} {given' : Option α'}
    (related : Option.Rel S given given') :
    (given = none ∧ given' = none) ∨
      ∃ value value', given = some value ∧ given' = some value' ∧ S value value' := by
  cases related with
  | none => exact .inl ⟨rfl, rfl⟩
  | some related => exact .inr ⟨_, _, rfl, rfl, related⟩

theorem rel_refl {α : Type} {S : α → α → Prop} (same : ∀ value, S value value) (given : Option α) :
    Option.Rel S given given := by
  cases given with
  | none => exact .none
  | some value => exact .some (same value)

theorem isSome_eq_of_rel {α α' : Type} {S : α → α' → Prop} {given : Option α} {given' : Option α'}
    (related : Option.Rel S given given') : given.isSome = given'.isSome := by
  cases related <;> rfl

theorem rel_bind {α α' β β' : Type} {S : α → α' → Prop} {T : β → β' → Prop} {given : Option α}
    {given' : Option α'} {next : α → Option β} {next' : α' → Option β'}
    (related : Option.Rel S given given')
    (each : ∀ value value', S value value' → Option.Rel T (next value) (next' value')) :
    Option.Rel T (given.bind next) (given'.bind next') := by
  cases related with
  | none => exact .none
  | some related => exact each _ _ related

theorem rel_map_some {α α' : Type} {S T : α → α' → Prop} {given : Option α} {given' : Option α'}
    (weaker : ∀ value value', S value value' → T value value')
    (related : Option.Rel S given given') :
    Option.Rel (Option.Rel T) (given.map some) (given'.map some) := by
  cases related with
  | none => exact .none
  | some related => exact .some (.some (weaker _ _ related))

-- a name that others have, too, is refused whatever its values are
theorem Record.only?_middle {α : Type} (name : String) (before after : List (String × α))
    (value : α) : only? name (before ++ (name, value) :: after) =
      if ((before ++ after).filter (·.1 == name)).isEmpty then some (some value) else none := by
  have split : (before ++ (name, value) :: after).filter (·.1 == name) =
      before.filter (·.1 == name) ++ (name, value) :: after.filter (·.1 == name) := by simp
  rw [only?, split, List.filter_append]
  generalize before.filter (·.1 == name) = before
  generalize after.filter (·.1 == name) = after
  cases before with
  | nil => cases after <;> rfl
  | cons first before => cases before <;> rfl

namespace Json

theorem lastOf_append_append {α : Type} (name : String) (before after : List (String × α)) :
    lastOf name (before ++ after) = (lastOf name after).or (lastOf name before) := by
  induction after using List.reverseRecOn with
  | nil => rw [List.append_nil]; rfl
  | append_singleton after member ih =>
    obtain ⟨n, value⟩ := member
    rw [← List.append_assoc, lastOf_append, lastOf_append, ih]
    split <;> rfl

namespace Tree

inductive MemberDiffers (name : String) (R : Tree → Tree → Prop) : Tree → Tree → Prop where
  | intro (before after : List (List TextItem × Tree)) {spelled : List TextItem}
      {tree tree' : Tree} (spells : TextItem.string? spelled = some name) (differ : R tree tree') :
      MemberDiffers name R (.object (before ++ (spelled, tree) :: after))
        (.object (before ++ (spelled, tree') :: after))

inductive FieldDiffers (name : String) (R : Tree → Tree → Prop) : Tree → Tree → Prop where
  | named {tree tree' : Tree} (differ : MemberDiffers name R tree tree') :
      FieldDiffers name R tree tree'
  | listed {tree tree' : Tree} (differ : R tree tree') :
      FieldDiffers name R (.array [tree]) (.array [tree'])

inductive TextDiffers (S : String → String → Prop) : Tree → Tree → Prop where
  | intro {items items' : List TextItem} {text text' : String}
      (spells : TextItem.string? items = some text) (spells' : TextItem.string? items' = some text')
      (differ : S text text') : TextDiffers S (.text items) (.text items')

variable {name : String} {R : Tree → Tree → Prop} {tree tree' : Tree}

theorem rel_string? {S : String → String → Prop} (differ : TextDiffers S tree tree') :
    Option.Rel S (string? tree) (string? tree') := by
  cases differ with
  | intro spells spells' differ =>
    rw [string?, string?, spells, spells']
    exact .some differ

-- where both are records they are so by name, with the members that are the same around the one
-- that is not
theorem record?_of_memberDiffers (differ : MemberDiffers name R tree tree') :
    (tree.record? = none ∧ tree'.record? = none) ∨
      ∃ before after value value', R value value' ∧
        tree.record? = some (.named (before ++ (name, value) :: after)) ∧
        tree'.record? = some (.named (before ++ (name, value') :: after)) := by
  cases differ with
  | intro before after spells differ =>
    simp only [record?, members?, List.mapM_append, List.mapM_cons, spells]
    cases List.mapM (m := Option) (fun (member : List TextItem × Tree) => do
      some (← TextItem.string? member.1, member.2)) before with
    | none => exact .inl ⟨rfl, rfl⟩
    | some before' =>
      cases List.mapM (m := Option) (fun (member : List TextItem × Tree) => do
        some (← TextItem.string? member.1, member.2)) after with
      | none => exact .inl ⟨rfl, rfl⟩
      | some after' => exact .inr ⟨before', after', _, _, differ, rfl, rfl⟩

theorem rel_fieldOf {trailing : Bool} (differ : FieldDiffers name R tree tree') :
    Option.Rel (fun found found' => ∃ value value', found = some value ∧ found' = some value' ∧
      R value value') (fieldOf { name, trailing } tree) (fieldOf { name, trailing } tree') := by
  cases differ with
  | listed differ => exact .some ⟨_, _, rfl, rfl, differ⟩
  | named differ =>
    unfold fieldOf
    rcases record?_of_memberDiffers differ with
      ⟨none_eq, none_eq'⟩ | ⟨before, after, value, value', related, some_eq, some_eq'⟩
    · rw [none_eq, none_eq']
      exact .none
    · rw [some_eq, some_eq']
      simp only [Option.bind_eq_bind, Option.bind_some, Record.arrange, List.mapM_cons,
        List.mapM_nil, Record.only?_middle]
      split
      · exact .some ⟨value, value', rfl, rfl, related⟩
      · exact .none

theorem fieldOf_eq_of_ne {field : Record.Field} (other : name ≠ field.name)
    (differ : MemberDiffers name R tree tree') : fieldOf field tree = fieldOf field tree' := by
  unfold fieldOf
  rcases record?_of_memberDiffers differ with
    ⟨none_eq, none_eq'⟩ | ⟨before, after, value, value', related, some_eq, some_eq'⟩
  · rw [none_eq, none_eq']
  · rw [some_eq, some_eq']
    simp [Record.arrange, Record.only?, List.filter_append, other]

theorem optional?_of_fieldDiffers {α : Type} (read : Tree → Option α)
    (differ : FieldDiffers name R tree tree') :
    optional? read (some tree) = (read tree).map some ∧
      optional? read (some tree') = (read tree').map some := by
  cases differ with
  | listed differ => exact ⟨rfl, rfl⟩
  | named differ => cases differ with | intro before after spells differ => exact ⟨rfl, rfl⟩

theorem memberValues?_append (depth : Nat) (before after : List (List TextItem × Tree)) :
    memberValues? depth (before ++ after) = (memberValues? depth before).bind fun before =>
      (memberValues? depth after).map (before ++ ·) := by
  induction before with
  | nil =>
    simp only [List.nil_append, memberValues?]
    cases memberValues? depth after <;> rfl
  | cons member before ih =>
    obtain ⟨spelled, tree⟩ := member
    simp only [List.cons_append, memberValues?, ih]
    cases TextItem.string? spelled with
    | none => rfl
    | some name =>
      cases value? depth tree with
      | none => rfl
      | some value =>
        cases memberValues? depth before with
        | none => rfl
        | some before' => cases memberValues? depth after <;> rfl

end Tree

inductive MemberDiffers (name : String) (T : Json → Json → Prop) : Json → Json → Prop where
  | intro (before after : List (String × Json)) {value value' : Json} (differ : T value value') :
      MemberDiffers name T (.object (before ++ (name, value) :: after))
        (.object (before ++ (name, value') :: after))

inductive BothStrings : Json → Json → Prop where
  | intro (text text' : String) : BothStrings (.string text) (.string text')

variable {name : String} {T : Json → Json → Prop}

-- The values count only where no later one has their name.
theorem MemberDiffers.get?_cases {data data' : Json} (differ : MemberDiffers name T data data')
    (asked : String) : data.get? asked = data'.get? asked ∨
      asked = name ∧ Option.Rel T (data.get? asked) (data'.get? asked) := by
  cases differ with
  | @intro before after value value' differ =>
    have last (value : Json) : get? asked (.object (before ++ (name, value) :: after)) =
        (lastOf asked after).or (if name = asked then some value else lastOf asked before) := by
      rw [get?, List.append_cons, lastOf_append_append, lastOf_append]
    rw [last, last]
    cases lastOf asked after with
    | some later => exact .inl rfl
    | none =>
      by_cases same : name = asked
      · rw [if_pos same, if_pos same]
        exact .inr ⟨same.symm, .some differ⟩
      · rw [if_neg same, if_neg same]
        exact .inl rfl

namespace Tree

variable {R : Tree → Tree → Prop} {tree tree' : Tree}

theorem rel_value?_of_textDiffers {S : String → String → Prop} (depth : Nat)
    (differ : TextDiffers S tree tree') :
    Option.Rel BothStrings (value? depth tree) (value? depth tree') := by
  cases differ with
  | intro spells spells' differ =>
    rw [value?, value?, spells, spells']
    exact .some (.intro _ _)

theorem rel_value?_of_memberDiffers
    (each : ∀ {tree tree' : Tree}, R tree tree' → ∀ depth,
      Option.Rel T (value? depth tree) (value? depth tree'))
    (depth : Nat) (differ : MemberDiffers name R tree tree') :
    Option.Rel (Json.MemberDiffers name T) (value? depth tree) (value? depth tree') := by
  cases differ with
  | intro before after spells differ =>
    cases depth with
    | zero =>
      rw [value?, value?]
      exact .none
    | succ depth =>
      simp only [value?, memberValues?_append, memberValues?, spells]
      cases memberValues? depth before with
      | none => exact .none
      | some before' =>
        rcases cases_of_rel (each differ depth) with
          ⟨none_eq, none_eq'⟩ | ⟨value, value', some_eq, some_eq', related⟩
        · rw [none_eq, none_eq']
          exact .none
        · rw [some_eq, some_eq']
          cases memberValues? depth after with
          | none => exact .none
          | some after' => exact .some (.intro before' after' related)

end Tree

end Json

end SecretResolver
