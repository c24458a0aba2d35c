import SecretResolver.Proofs.Json.Document
import SecretResolver.Proofs.Json.Fields
import SecretResolver.Proofs.Json.Members
import SecretResolver.Proofs.Scene.Variables
import SecretResolver.Proofs.SecretsFile.Snapshot

set_option autoImplicit false

namespace SecretResolver

structure Stock where
  entries : List (String × String)
  distinct : (entries.map (·.1)).Nodup
  nameable : ∀ entry ∈ entries, entry.1 ≠ "" ∧ '=' ∉ entry.1.toList ∧ '\x00' ∉ entry.1.toList
  textual : ∀ entry ∈ entries, '\x00' ∉ entry.2.toList

namespace Stock

def value? (stock : Stock) (name : String) : Option String :=
  stock.entries.lookup name

def Finds (stock : Stock) (location : String) (found : Except Failure ByteArray) : Prop :=
  match stock.value? location with
  | some value => found = .ok value.toUTF8
  | none => ∃ failure, found = .error failure ∧ failure.isNotFound = true

-- No other pair, written with an equals sign, begins like one of this name.
def Unmistaken (stock : Stock) (name : String) : Prop :=
  ∀ entry ∈ stock.entries, entry.1 ≠ name →
    ¬ (name ++ "=").toList <+: (entry.1 ++ "=" ++ entry.2).toList

inductive Answers (stock : Stock) (mapping : Template) : Call → Answer → Prop where
  | bytes {id value : String} (held : stock.value? (mapping.locate id) = some value) :
      Answers stock mapping (.get id) (.bytes (.ok value.toUTF8))
  | text {id value : String} (held : stock.value? (mapping.locate id) = some value) :
      Answers stock mapping (.getString id) (.text (.ok value))
  | noBytes {id : String} {failure : Failure} (missing : stock.value? (mapping.locate id) = none)
      (notFound : failure.isNotFound = true) :
      Answers stock mapping (.get id) (.bytes (.error failure))
  | noText {id : String} {failure : Failure} (missing : stock.value? (mapping.locate id) = none)
      (notFound : failure.isNotFound = true) :
      Answers stock mapping (.getString id) (.text (.error failure))

inductive ById : Call → String → Prop where
  | get (id : String) : ById (.get id) id
  | getString (id : String) : ById (.getString id) id

variable {stock : Stock} {mapping : Template}

theorem answers_of_finds {call : Call} {id : String} {found : Except Failure ByteArray}
    (byId : ById call id) (finds : stock.Finds (mapping.locate id) found) (kind : StoreKind) :
    stock.Answers mapping call (call.answer kind found) := by
  unfold Finds at finds
  cases held : stock.value? (mapping.locate id) with
  | none =>
    simp only [held] at finds
    obtain ⟨failure, rfl, notFound⟩ := finds
    cases byId with
    | get => exact .noBytes held notFound
    | getString => exact .noText held notFound
  | some value =>
    simp only [held] at finds
    subst finds
    cases byId with
    | get => exact .bytes held
    | getString =>
      rw [Call.answer, Except.bind, Resolver.textOf_toUTF8]
      exact .text held

theorem nameable_of_value? {name value : String} (held : stock.value? name = some value) :
    name ≠ "" ∧ '=' ∉ name.toList ∧ '\x00' ∉ name.toList := by
  obtain ⟨before, after, entries_eq, -⟩ := List.lookup_eq_some_iff.1 held
  exact stock.nameable (name, value) (by simp [entries_eq])

end Stock

section

variable {entries others : List (String × String)}

theorem lookup_eq_some_iff_mem (distinct : (entries.map (·.1)).Nodup) {name value : String} :
    entries.lookup name = some value ↔ (name, value) ∈ entries := by
  induction entries with
  | nil => simp
  | cons entry entries ih =>
    obtain ⟨key, text⟩ := entry
    simp only [List.map_cons, List.nodup_cons] at distinct
    by_cases same : name = key
    · subst same
      have absent : (name, value) ∉ entries := fun mem => distinct.1 (List.mem_map_of_mem mem)
      simp [absent, eq_comm]
    · have differs : (name == key) = false := by simpa using same
      simp [List.lookup_cons, differs, same, ih distinct.2]

theorem lookup_eq_of_perm (perm : entries.Perm others) (distinct : (others.map (·.1)).Nodup)
    (name : String) : entries.lookup name = others.lookup name := by
  ext value
  rw [lookup_eq_some_iff_mem distinct,
    lookup_eq_some_iff_mem ((perm.map _).nodup_iff.2 distinct), perm.mem_iff]

end

namespace Environment

def Holds (s : Scene) (stock : Stock) : Prop :=
  s.environment.Perm (stock.entries.map fun entry => (entry.1, entry.2.toUTF8))

section

variable {s : Scene} {stock : Stock}

theorem exists_entry_of_mem (holds : Holds s stock) {entry : String × ByteArray}
    (mem : entry ∈ s.environment) :
    ∃ name value, (name, value) ∈ stock.entries ∧ entry = (name, value.toUTF8) := by
  obtain ⟨⟨name, value⟩, mem, entry_eq⟩ := List.mem_map.1 (holds.mem_iff.1 mem)
  exact ⟨name, value, mem, entry_eq.symm⟩

theorem valueOf?_of_value? (holds : Holds s stock) {location value : String}
    (unmistaken : stock.Unmistaken location) (held : stock.value? location = some value) :
    s.valueOf? location = some value.toUTF8 := by
  obtain ⟨nonempty, -, noNul⟩ := Stock.nameable_of_value? held
  have mem : (location, value.toUTF8) ∈ s.environment := by
    refine holds.mem_iff.2 (List.mem_map.2 ⟨(location, value), ?_, rfl⟩)
    exact (lookup_eq_some_iff_mem stock.distinct).1 held
  have only : ∀ entry ∈ s.environment, ∀ found,
      Scene.valueIn? location entry = some found → found = value.toUTF8 := by
    intro entry mem found isFound
    obtain ⟨name, other, listed, rfl⟩ := exists_entry_of_mem holds mem
    by_cases same : name = location
    · subst same
      have other_eq : other = value :=
        Option.some.inj (((lookup_eq_some_iff_mem stock.distinct).2 listed).symm.trans held)
      rw [other_eq, Scene.valueIn?_self] at isFound
      exact (Option.some.inj isFound).symm
    · have begins : (location ++ "=").toList <+: (name ++ "=" ++ other).toList :=
        Scene.prefix_of_valueIn? isFound
      exact absurd begins (unmistaken (name, other) listed same)
  rw [Scene.valueOf?, if_neg (by simp [nonempty, noNul])]
  have isSome : (s.environment.findSome? (Scene.valueIn? location)).isSome := by
    rw [List.findSome?_isSome_iff]
    exact ⟨_, mem, by rw [Scene.valueIn?_self]; rfl⟩
  obtain ⟨found, found_eq⟩ := Option.isSome_iff_exists.1 isSome
  obtain ⟨entry, mem, isFound⟩ := List.exists_of_findSome?_eq_some found_eq
  rw [found_eq, only entry mem found isFound]

theorem valueOf?_of_missing (holds : Holds s stock) {location : String}
    (unmistaken : stock.Unmistaken location) (missing : stock.value? location = none) :
    s.valueOf? location = none := by
  unfold Scene.valueOf?
  split
  · rfl
  · rw [List.findSome?_eq_none_iff]
    intro entry mem
    obtain ⟨name, value, listed, rfl⟩ := exists_entry_of_mem holds mem
    have differs : name ≠ location := by
      rintro rfl
      cases missing.symm.trans ((lookup_eq_some_iff_mem stock.distinct).2 listed)
    cases found : Scene.valueIn? location (name, value.toUTF8) with
    | none => rfl
    | some bytes =>
      have begins : (location ++ "=").toList <+: (name ++ "=" ++ value).toList :=
        Scene.prefix_of_valueIn? found
      exact absurd begins (unmistaken (name, value) listed differs)

theorem finds_valueOf (holds : Holds s stock) {location : String}
    (unmistaken : stock.Unmistaken location) :
    stock.Finds location (valueOf location (s.valueOf? location)) := by
  unfold Stock.Finds
  cases held : stock.value? location with
  | none => exact ⟨_, by rw [valueOf?_of_missing holds unmistaken held]; rfl, rfl⟩
  | some value =>
    rw [valueOf?_of_value? holds unmistaken held]
    exact if_pos value.isValidUTF8

end

end Environment

namespace SecretsFile

open Json (Tree)

def Contents.json (c : Contents) : Json :=
  .object (c.map fun (name, value) => (name, .string value))

def Holds (s : Scene) (path : String) (stock : Stock) : Prop :=
  ∃ (text : String) (c : Contents), s.files.read path = .ok text.toUTF8 ∧ c.Perm stock.entries ∧
    Json.WritesPadded text.toList c.json

theorem string?_of_means {tree : Tree} {text : String} (means : tree.Means (.string text)) :
    tree.string? = some text := by
  have value := means 0
  cases tree <;> simp_all [Tree.value?, Tree.string?, Json.depth]

theorem parse_of_writes {text : String} {c : Contents}
    (writes : Json.WritesPadded text.toList c.json) : Contents.parse text = some c := by
  obtain ⟨trees, parsed, means⟩ := Tree.exists_parse_object writes
  rw [Contents.parse, Text.toList_toUTF8, parsed]
  apply mapM_eq_some_iff.2
  refine (List.forall₂_map_right_iff.1 means).imp ?_
  rintro ⟨name, tree⟩ ⟨key, value⟩ ⟨named, valued⟩
  simp [named, string?_of_means valued]

theorem load_of_holds [Libraries] {s : Scene} {path : String} {stock : Stock}
    (holds : Holds s path stock) :
    ∃ c, load path s.files = .ok c ∧ c.Perm stock.entries := by
  obtain ⟨text, c, read, perm, writes⟩ := holds
  exact ⟨c, by rw [load_text (.text read), parsed, parse_of_writes writes], perm⟩

theorem finds_valueAt {stock : Stock} {c : Contents} (perm : c.Perm stock.entries)
    (path location : String) : stock.Finds location (valueAt path location c) := by
  have lookup_eq : c.lookup location = stock.value? location := by
    rw [Contents.lookup, Json.lastOf_eq_lookup_reverse]
    exact lookup_eq_of_perm (c.reverse_perm.trans perm) stock.distinct location
  unfold Stock.Finds valueAt
  rw [lookup_eq]
  cases stock.value? location with
  | none => exact ⟨_, rfl, rfl⟩
  | some value => rfl

end SecretsFile

end SecretResolver
