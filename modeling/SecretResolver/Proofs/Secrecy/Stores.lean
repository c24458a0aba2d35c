import SecretResolver.Proofs.Secrecy.Sessions
import SecretResolver.Resolver

set_option autoImplicit false

namespace SecretResolver

open Json (Tree TextItem)

theorem Environment.agree_valueOf (name : String) {value value' : Option ByteArray}
    (same : Option.Rel (fun value value' => value.IsValidUTF8 ↔ value'.IsValidUTF8) value value') :
    Agree BothTexts (valueOf name value) (valueOf name value') := by
  cases same with
  | none => exact .error _
  | @some bytes bytes' valid_iff =>
    by_cases valid : bytes.IsValidUTF8
    · rw [valueOf, valueOf, if_pos valid, if_pos (valid_iff.1 valid)]
      exact .ok ⟨valid, valid_iff.1 valid⟩
    · rw [valueOf, valueOf, if_neg valid, if_neg (mt valid_iff.2 valid)]
      exact .error _

-- A variable that is sought under its own name is found in both runs or in neither.
theorem Environment.rel_valueOf? {s s' : Scene} {location : String}
    (alike : List.Forall₂ VariableAlike s.environment s'.environment)
    (unmistakable : s.Unmistakable location) :
    Option.Rel (fun value value' => value.IsValidUTF8 ↔ value'.IsValidUTF8) (s.valueOf? location)
      (s'.valueOf? location) := by
  unfold Scene.valueOf?
  split
  · exact .none
  · unfold Scene.Unmistakable at unmistakable
    revert alike unmistakable
    generalize s.environment = entries
    generalize s'.environment = entries'
    intro alike
    induction alike with
    | nil => exact fun _ => .none
    | @cons entry entry' rest rest' same _ ih =>
      intro unmistakable
      obtain ⟨first, others⟩ := List.forall_mem_cons.1 unmistakable
      obtain ⟨name, value⟩ := entry
      obtain ⟨name', value'⟩ := entry'
      obtain ⟨rfl, plain, isText⟩ := same
      rw [List.findSome?_cons, List.findSome?_cons, Scene.valueIn?_eq plain first,
        Scene.valueIn?_eq plain first]
      by_cases found : name = location
      · rw [if_pos found, if_pos found]
        exact .some isText
      · rw [if_neg found, if_neg found]
        exact ih others

theorem Json.isSome_lastOf {α : Type} (name : String) (members : List (String × α)) :
    (lastOf name members).isSome ↔ name ∈ members.map (·.1) := by
  induction members using List.reverseRecOn with
  | nil => simp [lastOf]
  | append_singleton members member ih =>
    obtain ⟨n, value⟩ := member
    rw [lastOf_append, List.map_append, List.mem_append, List.map_singleton, List.mem_singleton]
    by_cases same : n = name
    · simp [same]
    · rw [if_neg same, ih]
      exact (or_iff_left (Ne.symm same)).symm

namespace SecretsFile

def Contents.SameKeys (c c' : Contents) : Prop :=
  c.map (·.1) = c'.map (·.1)

theorem agree_valueAt (path key : String) {c c' : Contents} (same : c.SameKeys c') :
    Agree BothTexts (valueAt path key c) (valueAt path key c') := by
  have found_iff : (c.lookup key).isSome ↔ (c'.lookup key).isSome := by
    rw [Contents.lookup, Contents.lookup, Json.isSome_lastOf, Json.isSome_lastOf, same]
  unfold valueAt
  cases found : c.lookup key with
  | none =>
    have missing : c'.lookup key = none := by simpa [found] using found_iff
    rw [missing]
    exact .error _
  | some value =>
    obtain ⟨value', found'⟩ := Option.isSome_iff_exists.1 (found_iff.1 (by rw [found]; rfl))
    rw [found']
    exact .ok ⟨String.isValidUTF8 _, String.isValidUTF8 _⟩

def member? (member : List TextItem × Tree) : Option (String × String) := do
  some (← TextItem.string? member.1, ← Tree.string? member.2)

theorem rel_member? {member member' : List TextItem × Tree} (alike : MemberAlike member member') :
    Option.Rel (fun found found' => found.1 = found'.1) (member? member) (member? member') := by
  unfold member?
  rw [← alike.name_eq]
  have values : Option.Rel AnyTexts (Tree.string? member.2) (Tree.string? member'.2) := by
    rcases alike.value with same | differ
    · rw [same]
      exact rel_refl (fun _ => trivial) _
    · exact Tree.rel_string? differ
  refine rel_bind (rel_refl (S := Eq) (fun _ => rfl) _) ?_
  rintro name _ rfl
  exact rel_bind values fun _ _ _ => .some rfl

theorem rel_mapM {members members' : List (List TextItem × Tree)}
    (alike : List.Forall₂ MemberAlike members members') :
    Option.Rel Contents.SameKeys (members.mapM member?) (members'.mapM member?) := by
  induction alike with
  | nil => exact .some rfl
  | @cons member member' members members' first rest ih =>
    rw [List.mapM_cons, List.mapM_cons]
    refine rel_bind (rel_member? first) fun found found' same => ?_
    exact rel_bind ih fun c c' keys_eq => .some (congrArg₂ List.cons same keys_eq)

inductive Alike (path : String) : SecretsFile → SecretsFile → Prop where
  | unread : Alike path { path } { path }
  | read {c c' : Contents} (same : c.SameKeys c') :
      Alike path { path, cache := some c } { path, cache := some c' }

theorem Alike.path_eq {path : String} {file file' : SecretsFile} (alike : Alike path file file') :
    file.path = path ∧ file'.path = path := by
  cases alike <;> exact ⟨rfl, rfl⟩

variable [Libraries]

theorem TextsAlike.told {text text' : String} (alike : TextsAlike text text')
    (refused : Contents.parse text = none) :
    Libraries.jsonComplaint text = Libraries.jsonComplaint text' := by
  cases alike with
  | same => rfl
  | values parsed parsed' differ told => exact told refused

theorem rel_parse {text text' : String} (alike : TextsAlike text text') :
    Option.Rel Contents.SameKeys (Contents.parse text) (Contents.parse text') := by
  cases alike with
  | same => exact rel_refl (S := Contents.SameKeys) (fun _ => rfl) _
  | values parsed parsed' differ _ =>
    unfold Contents.parse
    simp only [parsed, parsed']
    exact rel_mapM differ

theorem agree_parsed (path : String) {text text' : String} (alike : TextsAlike text text') :
    Agree Contents.SameKeys (parsed path text) (parsed path text') := by
  unfold parsed
  rcases cases_of_rel (rel_parse alike) with ⟨bad, bad'⟩ | ⟨c, c', good, good', same⟩
  · rw [bad, bad', alike.told bad]
    exact .error _
  · rw [good, good']
    exact .ok same

variable {asked : List String} {Replies : Nat → Http.Reply → Http.Reply → Prop} {limit : Nat}
  {path : String}
  {file file' : SecretsFile}

theorem related_contents (alike : Alike path file file') :
    Related (Scene.Alike (.jsonFile path) asked Replies) limit
      (fun found found' => Agree Contents.SameKeys found.1 found'.1 ∧ Alike path found.2 found'.2)
      file.contents file'.contents := by
  cases alike with
  | read same => exact .pure ⟨.ok same, .read same⟩
  | unread =>
    refine (Related.fileText fun s s' alike => alike.files).bind ?_ fun read read' agree => ?_
    · intro read
      cases read.bind (parsed path) with
      | error failure => exact .pure _
      | ok c => exact (Grows.write _).bind fun _ => .pure _
    have loaded := agree.bind fun _ _ alike => agree_parsed path alike
    revert loaded
    generalize read.bind (parsed path) = result
    generalize read'.bind (parsed path) = result'
    intro loaded
    cases loaded with
    | error failure => exact .pure ⟨.error failure, .unread⟩
    | @ok c c' same =>
      have count_eq : c.count = c'.count := by
        rw [Contents.count, Contents.count, same]
      simp only [count_eq]
      refine (Related.write Scene.Alike.blind _).bind (fun _ => .pure _) fun _ _ _ => ?_
      exact .pure ⟨.ok same, .read same⟩

theorem related_fetch (alike : Alike path file file') (key : String) :
    Related (Scene.Alike (.jsonFile path) asked Replies) limit
      (fun found found' => Agree BothTexts found.1 found'.1 ∧ Alike path found.2 found'.2)
      (file.fetch key) (file'.fetch key) := by
  refine (related_contents alike).bind (fun _ => .pure _) fun found found' both =>
    .pure ⟨?_, both.2⟩
  obtain ⟨path_eq, path_eq'⟩ := both.2.path_eq
  rw [path_eq, path_eq']
  exact both.1.bind fun _ _ same => agree_valueAt path key same

end SecretsFile

namespace Store

variable [Libraries]

inductive Alike : StoreSettings → Store (StateM Scene) → Store (StateM Scene) → Prop where
  | vault {v : VaultSettings} {session session' : Vault.Session (StateM Scene)}
      (same : Vault.Session.Alike v session session') :
      Alike (.vault v) (.vault session) (.vault session')
  | environment : Alike .environment .environment .environment
  | jsonFile {path : String} {file file' : SecretsFile}
      (same : SecretsFile.Alike path file file') :
      Alike (.jsonFile path) (.jsonFile file) (.jsonFile file')

variable {asked : List String} {limit : Nat} {settings : StoreSettings}
  {store store' : Store (StateM Scene)}

theorem Alike.kind_eq (alike : Alike settings store store') :
    store.kind = settings.kind ∧ store'.kind = settings.kind := by
  cases alike <;> exact ⟨rfl, rfl⟩

theorem related_fetch (alike : Alike settings store store') {location : String}
    (mem : location ∈ asked) :
    Related (Scene.Alike settings asked (settings.RepliesAlike 0)) limit
      (fun found found' => Agree BothTexts found.1 found'.1 ∧ Alike settings found.2 found'.2)
      (store.fetch location) (store'.fetch location) := by
  cases alike with
  | vault same =>
    refine (Vault.Session.related_fetch ?_ same location).map fun _ _ agree => ⟨agree, .vault same⟩
    exact fun sent _ reply reply' alike => alike
  | environment =>
    intro s s' alike _
    have found := Environment.rel_valueOf? alike.environment (alike.unmistakable rfl location mem)
    exact ⟨⟨Environment.agree_valueOf location found, .environment⟩, alike⟩
  | jsonFile same =>
    apply (SecretsFile.related_fetch same location).map
    exact fun _ _ both => ⟨both.1, .jsonFile both.2⟩

end Store

end SecretResolver
