import SecretResolver.Proofs.Scene.Variables
import SecretResolver.Proofs.Secrecy.Differ
import SecretResolver.Proofs.Secrecy.TwoRuns
import SecretResolver.SecretsFile
import SecretResolver.Settings.Document
import SecretResolver.Vault.Answer

set_option autoImplicit false

namespace SecretResolver

open Json (Tree TextItem)

def Secret.isSendable (s : Secret) : Bool :=
  s.expose.toList.all Http.isHeaderChar

structure Secret.SameToken (t t' : Secret) : Prop where
  isEmpty_eq : t.isEmpty = t'.isEmpty
  isSendable_eq : t.isSendable = t'.isSendable

namespace Credentials

inductive Alike : Credentials → Credentials → Prop where
  | token {t t' : Secret} (same : t.SameToken t') : Alike (.token t) (.token t')
  | appId (appId : String) {u u' : Secret} (same : u.isEmpty = u'.isEmpty) :
      Alike (.appId appId u) (.appId appId u')
  | appIdFile (appId path : String) : Alike (.appIdFile appId path) (.appIdFile appId path)
  | appRole (roleId : String) : Alike (.appRole roleId none) (.appRole roleId none)
  | appRoleSecret (roleId : String) {i i' : Secret} (same : i.isEmpty = i'.isEmpty) :
      Alike (.appRole roleId (some i)) (.appRole roleId (some i'))

variable {c c' : Credentials}

theorem Alike.refl (c : Credentials) : c.Alike c := by
  cases c with
  | token t => exact .token ⟨rfl, rfl⟩
  | appId appId u => exact .appId appId rfl
  | appIdFile appId path => exact .appIdFile appId path
  | appRole roleId secretId =>
    cases secretId with
    | none => exact .appRole roleId
    | some i => exact .appRoleSecret roleId rfl

theorem Alike.method_eq (alike : Alike c c') : c.method = c'.method := by
  cases alike <;> rfl

-- which parts are empty, by name
def emptiness (c : Credentials) : List (String × Bool) :=
  c.parts.map fun (name, value) => (name, value == "")

theorem emptyPart?_eq_emptiness (c : Credentials) :
    c.emptyPart? = (c.emptiness.find? (·.2)).map (·.1) := by
  rw [emptiness, List.find?_map, Option.map_map]
  rfl

theorem Alike.emptiness_eq (alike : Alike c c') : c.emptiness = c'.emptiness := by
  have value_eq {i i' : Secret} (same : i.isEmpty = i'.isEmpty) :
      (i.expose == "") = (i'.expose == "") := by
    rw [Bool.eq_iff_iff, beq_iff_eq, beq_iff_eq, ← String.isEmpty_iff, ← String.isEmpty_iff]
    exact Bool.eq_iff_iff.1 same
  cases alike with
  | token same => simp [emptiness, parts, value_eq same.isEmpty_eq]
  | appId appId same => simp [emptiness, parts, value_eq same]
  | appIdFile appId path => rfl
  | appRole roleId => rfl
  | appRoleSecret roleId same => simp [emptiness, parts, value_eq same]

theorem Alike.emptyPart?_eq (alike : Alike c c') : c.emptyPart? = c'.emptyPart? := by
  rw [emptyPart?_eq_emptiness, emptyPart?_eq_emptiness, alike.emptiness_eq]

end Credentials

namespace StoreSettings

inductive Alike : StoreSettings → StoreSettings → Prop where
  | vault (v : VaultSettings) {c' : Credentials} (same : v.credentials.Alike c') :
      Alike (.vault v) (.vault { v with credentials := c' })
  | environment : Alike .environment .environment
  | jsonFile (path : String) : Alike (.jsonFile path) (.jsonFile path)

variable {store store' : StoreSettings}

theorem Alike.refl (store : StoreSettings) : store.Alike store := by
  cases store with
  | vault v => exact .vault v (.refl v.credentials)
  | environment => exact .environment
  | jsonFile path => exact .jsonFile path

theorem Alike.kind_eq (alike : store.Alike store') : store.kind = store'.kind := by
  cases alike <;> rfl

theorem Alike.problem?_eq (alike : store.Alike store') : store.problem? = store'.problem? := by
  cases alike with
  | vault v same =>
    simp only [problem?, VaultSettings.problem?, VaultSettings.hasScheme, same.emptyPart?_eq,
      same.method_eq]
  | environment => rfl
  | jsonFile path => rfl

end StoreSettings

structure Settings.Alike (settings settings' : Settings) : Prop where
  mapping_eq : settings.mapping = settings'.mapping
  store : settings.store.Alike settings'.store

theorem Settings.Alike.refl (settings : Settings) : settings.Alike settings :=
  ⟨rfl, .refl settings.store⟩

def AnyTexts (_ _ : String) : Prop :=
  True

variable [Libraries]

-- A body that is no answer is complained about in words of its own.
inductive Http.Reply.Alike {α : Type} (what : String) (decode : List UInt8 → Option α)
    (Differs : Tree → Tree → Prop) : Http.Reply → Http.Reply → Prop where
  | same (reply : Http.Reply) : Alike what decode Differs reply reply
  | good {status : Nat} {bytes bytes' : List UInt8} {tree tree' : Tree}
      (success : 200 ≤ status ∧ status < 300) (parsed : Tree.parse bytes = some tree)
      (parsed' : Tree.parse bytes' = some tree') (differs : Differs tree tree')
      (sized : bytes.length < Libraries.bodyLimit ↔ bytes'.length < Libraries.bodyLimit)
      (told : (Http.Reply.content? ⟨status, .whole bytes⟩).bind decode = none →
        Libraries.bodyComplaint what ⟨status, .whole bytes⟩ =
          Libraries.bodyComplaint what ⟨status, .whole bytes'⟩) :
      Alike what decode Differs ⟨status, .whole bytes⟩ ⟨status, .whole bytes'⟩
  | refusal {status : Nat} {bytes bytes' : List UInt8} {tree tree' : Tree} {name : String}
      (refused : ¬(200 ≤ status ∧ status < 300)) (parsed : Tree.parse bytes = some tree)
      (parsed' : Tree.parse bytes' = some tree') (noErrors : name ≠ "errors")
      (differs : tree.MemberDiffers name (fun _ _ => True) tree')
      (sized : bytes.length < Libraries.bodyLimit ↔ bytes'.length < Libraries.bodyLimit) :
      Alike what decode Differs ⟨status, .whole bytes⟩ ⟨status, .whole bytes'⟩

def LoginDiffers : Tree → Tree → Prop :=
  Tree.FieldDiffers "auth"
    (Tree.FieldDiffers "client_token" (Tree.TextDiffers fun t t' => Secret.SameToken ⟨t⟩ ⟨t'⟩))

def ReadDiffers (field : String) : Tree → Tree → Prop :=
  Tree.FieldDiffers "data" fun data data' =>
    data.MemberDiffers field (Tree.TextDiffers AnyTexts) data' ∨
      data.MemberDiffers "data" (Tree.MemberDiffers field (Tree.TextDiffers AnyTexts)) data'

def Http.Reply.LoginAlike : Http.Reply → Http.Reply → Prop :=
  Alike "login" Vault.Answer.token? LoginDiffers

def Http.Reply.ReadAlike (field : String) : Http.Reply → Http.Reply → Prop :=
  Alike "read" Vault.Answer.data? (ReadDiffers field)

def StoreSettings.RepliesAlike (logins : Nat) (store : StoreSettings) (sent : Nat) :
    Http.Reply → Http.Reply → Prop :=
  match store with
  | .vault v =>
    if sent < logins then Http.Reply.LoginAlike else Http.Reply.ReadAlike v.valueField
  | .environment | .jsonFile _ => fun _ _ => True

structure SecretsFile.MemberAlike (member member' : List TextItem × Tree) : Prop where
  name_eq : member.1 = member'.1
  value : member.2 = member'.2 ∨ Tree.TextDiffers AnyTexts member.2 member'.2

inductive SecretsFile.TextsAlike : String → String → Prop where
  | same (text : String) : TextsAlike text text
  | values {text text' : String} {members members' : List (List TextItem × Tree)}
      (parsed : Tree.parse text.toUTF8.data.toList = some (.object members))
      (parsed' : Tree.parse text'.toUTF8.data.toList = some (.object members'))
      (alike : List.Forall₂ MemberAlike members members')
      (told : Contents.parse text = none →
        Libraries.jsonComplaint text = Libraries.jsonComplaint text') : TextsAlike text text'

structure SettingsDocument.Alike (d d' : SettingsDocument) : Prop where
  mapping_eq : d.mapping = d'.mapping
  store : d.store.Alike d'.store

def SettingsDocument.TextsAlike (text text' : String) : Prop :=
  Agree Alike (read text) (read text')

def StoreSettings.FilesAlike (files files' : FileTree) : StoreSettings → Prop
  | .vault v => ∀ appId path, v.credentials = .appIdFile appId path →
    Agree (fun text text' => Text.trimmed text = "" ↔ Text.trimmed text' = "") (files.text path)
      (files'.text path)
  | .environment => True
  | .jsonFile path => Agree SecretsFile.TextsAlike (files.text path) (files'.text path)

structure Environment.VariableAlike (entry entry' : String × ByteArray) : Prop where
  name_eq : entry.1 = entry'.1
  plain : '=' ∉ entry.1.toList
  isText : entry.2.IsValidUTF8 ↔ entry'.2.IsValidUTF8

structure Scene.Alike (store : StoreSettings) (asked : List String)
    (Replies : Nat → Http.Reply → Http.Reply → Prop) (s s' : Scene) : Prop where
  files : store.FilesAlike s.files s'.files
  delays : List.Forall₂ (fun files files' => store.FilesAlike files files') s.delays s'.delays
  environment : List.Forall₂ Environment.VariableAlike s.environment s'.environment
  unmistakable : store = .environment → ∀ location ∈ asked, s.Unmistakable location
  isServed_eq : s.isServed = s'.isServed
  replies : ∀ i, Agree (Replies (s.requests.length + i)) (s.answerTo i) (s'.answerTo i)
  log_eq : s.log = s'.log

namespace Scene.Alike

variable {store : StoreSettings} {asked : List String}
  {Replies : Nat → Http.Reply → Http.Reply → Prop} {s s' : Scene}

theorem blind : Blind (Alike store asked Replies) where
  record alike entry := { alike with log_eq := congrArg (· ++ [entry]) alike.log_eq }
  sleep {s s'} alike := by
    unfold Scene.sleep
    cases delays : s.delays with
    | nil =>
      have same := alike.delays
      rw [delays] at same
      rw [List.forall₂_nil_left_iff.1 same]
      exact alike
    | cons files rest =>
      have same := alike.delays
      rw [delays] at same
      obtain ⟨files', rest', first, others, delays'⟩ := List.forall₂_cons_left_iff.1 same
      rw [delays']
      exact { alike with files := first, delays := others }

-- All that was to be sent for logins was sent.
theorem loggedIn {logins : Nat} (alike : Alike store asked (store.RepliesAlike logins) s s')
    (sent : logins ≤ s.requests.length) : Alike store asked (store.RepliesAlike 0) s s' := by
  refine { alike with replies := fun i => (alike.replies i).mono ?_ }
  intro reply reply' related
  cases store with
  | vault v =>
    have later : ¬s.requests.length + i < logins := by omega
    rw [StoreSettings.RepliesAlike, if_neg later] at related
    exact related
  | environment => exact trivial
  | jsonFile path => exact trivial

end Scene.Alike

end SecretResolver
