import SecretResolver.Proofs.Resolver.Calls
import SecretResolver.Proofs.Resolver.Setup
import SecretResolver.Proofs.Secrecy.Choices
import SecretResolver.Proofs.Secrecy.Stores
import SecretResolver.Proofs.Template.Compile

set_option autoImplicit false

namespace SecretResolver

def Answer.outcome : Answer → Except Failure Unit
  | bytes result => result.map fun _ => ()
  | text result => result.map fun _ => ()

theorem Resolver.exists_textOf (kind : StoreKind) (id : String) {bytes : ByteArray}
    (valid : bytes.IsValidUTF8) : ∃ text, textOf kind id bytes = .ok text := by
  rw [textOf, String.fromUTF8?, dif_pos valid]
  exact ⟨_, rfl⟩

theorem Call.outcome_answer_eq {found found' : Except Failure ByteArray} (kind : StoreKind)
    (call : Call) (agree : Agree BothTexts found found') :
    (call.answer kind found).outcome = (call.answer kind found').outcome := by
  have unseen := agree.map_eq (fun _ _ _ => rfl : ∀ b b', BothTexts b b' → () = ())
  cases call with
  | get id => exact unseen
  | getReference reference => exact unseen
  | getString id =>
    have decoded : Agree (fun _ _ => True) (found.bind (Resolver.textOf kind id))
        (found'.bind (Resolver.textOf kind id)) := by
      refine agree.bind fun bytes bytes' both => ?_
      obtain ⟨text, decoded⟩ := Resolver.exists_textOf kind id both.1
      obtain ⟨text', decoded'⟩ := Resolver.exists_textOf kind id both.2
      rw [decoded, decoded']
      exact .ok trivial
    exact decoded.map_eq fun _ _ _ => rfl

namespace Resolver

def asked (settings : Settings) (calls : List Call) : List String :=
  calls.map (Call.location settings.mapping settings.store.kind)

section

variable [Libraries]

structure Alike (settings : Settings) (r r' : Resolver (StateM Scene)) : Prop where
  mapping_eq : r.mapping = settings.mapping
  mapping_eq' : r'.mapping = settings.mapping
  store : Store.Alike settings.store r.store r'.store

section

variable {locations : List String} {limit : Nat} {settings : Settings}
  {r r' : Resolver (StateM Scene)}

theorem Alike.kind_eq (alike : Alike settings r r') :
    r.kind = settings.store.kind ∧ r'.kind = settings.store.kind :=
  Store.Alike.kind_eq alike.store

theorem related_fetch (alike : Alike settings r r') {location : String}
    (mem : location ∈ locations) :
    Related (Scene.Alike settings.store locations (settings.store.RepliesAlike 0)) limit
      (fun found found' => Agree BothTexts found.1 found'.1 ∧ Alike settings found.2 found'.2)
      (r.fetch location) (r'.fetch location) := by
  apply (Store.related_fetch alike.store mem).map
  exact fun _ _ both => ⟨both.1, alike.mapping_eq, alike.mapping_eq', both.2⟩

theorem related_answer (alike : Alike settings r r') {call : Call}
    (mem : call.location settings.mapping settings.store.kind ∈ locations) :
    Related (Scene.Alike settings.store locations (settings.store.RepliesAlike 0)) limit
      (fun given given' => given.1.outcome = given'.1.outcome ∧ Alike settings given.2 given'.2)
      (r.answer call) (r'.answer call) := by
  intro s s' scenes within
  rw [run_answer_eq, alike.mapping_eq, alike.kind_eq.1] at within ⊢
  rw [run_answer_eq, alike.mapping_eq', alike.kind_eq.2]
  have logged := Scene.Alike.blind.record scenes (call.entry settings.mapping settings.store.kind)
  obtain ⟨⟨agree, after⟩, scenes⟩ := related_fetch alike mem _ _ logged within
  refine ⟨⟨?_, after⟩, scenes⟩
  dsimp only
  rw [after.kind_eq.1, after.kind_eq.2]
  exact call.outcome_answer_eq _ agree

theorem alike_answers (alike : Alike settings r r') {calls : List Call} {s s' : Scene}
    (within : asked settings calls ⊆ locations)
    (scenes : Scene.Alike settings.store locations (settings.store.RepliesAlike 0) s s') :
    let given := (r.answers calls).run s
    let given' := (r'.answers calls).run s'
    given.1.1.map Answer.outcome = given'.1.1.map Answer.outcome ∧
      Scene.Alike settings.store locations (settings.store.RepliesAlike 0) given.2 given'.2 := by
  induction calls generalizing r r' s s' with
  | nil => exact ⟨rfl, scenes⟩
  | cons call calls ih =>
    obtain ⟨mem, within⟩ := List.cons_subset.1 within
    obtain ⟨⟨first_eq, after⟩, scenes⟩ := related_answer alike mem s s' scenes (Nat.le_refl _)
    obtain ⟨rest_eq, scenes⟩ := ih after within scenes
    rw [answers_cons, answers_cons]
    exact ⟨congrArg₂ List.cons first_eq rest_eq, scenes⟩

end

theorem grows_openStore (store : StoreSettings) :
    Grows (openStore store : StateM Scene (Except Failure (Store (StateM Scene)))) := by
  cases store with
  | vault v => exact (Vault.Session.grows_connect v).map
  | environment => exact .pure _
  | jsonFile path => exact .pure _

theorem related_openStore {locations : List String} {logins : Nat} {store store' : StoreSettings}
    (alike : store.Alike store') :
    Related (Scene.Alike store locations (store.RepliesAlike logins)) logins
      (Agree (Store.Alike store)) (openStore store) (openStore store') := by
  cases alike with
  | vault v same =>
    refine (Vault.Session.related_connect ?_ same).map fun _ _ agree =>
      agree.map fun _ _ opened => .vault opened
    intro sent less reply reply' alike
    rw [StoreSettings.RepliesAlike, if_pos less] at alike
    exact alike
  | environment => exact .pure (.ok .environment)
  | jsonFile path => exact .pure (.ok (.jsonFile .unread))

theorem related_ofSettings {locations : List String} {logins : Nat}
    {settings settings' : Settings} (alike : settings.Alike settings') :
    Related (Scene.Alike settings.store locations (settings.store.RepliesAlike logins)) logins
      (Agree (Alike settings)) (ofSettings settings) (ofSettings settings') := by
  obtain ⟨mapping, store⟩ := settings
  obtain ⟨mapping', store'⟩ := settings'
  obtain ⟨rfl, same⟩ := alike
  unfold ofSettings
  rw [Settings.check, Settings.check, ← same.problem?_eq, ← same.kind_eq]
  cases store.problem? with
  | some problem => exact .pure (.error _)
  | none =>
    refine (Related.write Scene.Alike.blind _).bind (fun _ => (grows_openStore store).map)
      fun _ _ _ => ?_
    apply (related_openStore same).map
    exact fun _ _ agree => agree.map fun _ _ opened => ⟨rfl, rfl, opened⟩

def description? {m : Type → Type} (r : Resolver m) : Option String :=
  match r.store with
  | .vault session => some (session.describe r.mapping)
  | .environment | .jsonFile _ => none

theorem Alike.description?_eq {settings : Settings} {r r' : Resolver (StateM Scene)}
    (alike : Alike settings r r') : r.description? = r'.description? := by
  obtain ⟨mapping, store⟩ := r
  obtain ⟨mapping', store'⟩ := r'
  obtain ⟨mapping'', settings⟩ := settings
  obtain ⟨rfl, rfl, same⟩ := alike
  cases same with
  | vault same => cases same with | intro same => rfl
  | environment => rfl
  | jsonFile same => rfl

def sentForSetup (settings : Settings) (s : Scene) : Nat :=
  ((ofSettings settings : StateM Scene _).run s).2.requests.length

theorem alike_lifetime {settings settings' : Settings} {s s' : Scene} {calls : List Call}
    (same : settings.Alike settings')
    (alike : Scene.Alike settings.store (asked settings calls)
      (settings.store.RepliesAlike (sentForSetup settings s)) s s') :
    let made := (ofSettings settings : StateM Scene _).run s
    let made' := (ofSettings settings' : StateM Scene _).run s'
    let ended := (lifetime settings calls : StateM Scene _).run s
    let ended' := (lifetime settings' calls : StateM Scene _).run s'
    (made.1.map description? = made'.1.map description? ∧ made.2.log = made'.2.log) ∧
      ended.1.map (·.map Answer.outcome) = ended'.1.map (·.map Answer.outcome) ∧
      ended.2.log = ended'.2.log := by
  obtain ⟨agree, scenes⟩ := related_ofSettings same s s' alike (Nat.le_refl _)
  have ready := scenes.loggedIn (Nat.le_refl _)
  rw [run_lifetime, run_lifetime]
  revert agree scenes ready
  generalize (ofSettings settings : StateM Scene _).run s = made
  generalize (ofSettings settings' : StateM Scene _).run s' = made'
  obtain ⟨made, later⟩ := made
  obtain ⟨made', later'⟩ := made'
  intro agree scenes ready
  refine ⟨⟨agree.map_eq fun _ _ alike => alike.description?_eq, scenes.log_eq⟩, ?_⟩
  cases agree with
  | error failure => exact ⟨rfl, scenes.log_eq⟩
  | ok alike =>
    obtain ⟨answers_eq, scenes⟩ := alike_answers alike (List.Subset.refl _) ready
    exact ⟨congrArg Except.ok answers_eq, scenes.log_eq⟩

theorem secrets_unseen :
    (∀ choices choices' : List Choice, List.Forall₂ Choice.Alike choices choices' →
      Agree Settings.Alike (Draft.ofChoices choices).settings (Draft.ofChoices choices').settings) ∧
    (∀ text text' : String, SettingsDocument.TextsAlike text text' →
      Agree Settings.Alike (Settings.ofText text) (Settings.ofText text')) ∧
    (∀ (path : String) (s s' : Scene),
      Agree SettingsDocument.TextsAlike (s.files.text path) (s'.files.text path) →
        let loaded := (Settings.load path : StateM Scene _).run s
        let loaded' := (Settings.load path : StateM Scene _).run s'
        Agree Settings.Alike loaded.1 loaded'.1 ∧ ∃ entries,
          loaded.2 = { s with log := s.log ++ entries } ∧
            loaded'.2 = { s' with log := s'.log ++ entries }) ∧
    ∀ (settings settings' : Settings) (s s' : Scene) (calls : List Call),
      settings.Alike settings' →
      Scene.Alike settings.store (asked settings calls)
        (settings.store.RepliesAlike (sentForSetup settings s)) s s' →
        let made := (ofSettings settings : StateM Scene _).run s
        let made' := (ofSettings settings' : StateM Scene _).run s'
        let ended := (lifetime settings calls : StateM Scene _).run s
        let ended' := (lifetime settings' calls : StateM Scene _).run s'
        (made.1.map description? = made'.1.map description? ∧ made.2.log = made'.2.log) ∧
          ended.1.map (·.map Answer.outcome) = ended'.1.map (·.map Answer.outcome) ∧
          ended.2.log = ended'.2.log :=
  ⟨fun _ _ alike => Draft.agree_settings_ofChoices alike,
    fun _ _ alike => Settings.agree_ofText alike, fun _ _ _ alike => Settings.alike_load alike,
    fun _ _ _ _ _ same alike => alike_lifetime same alike⟩

end

section

open Json (Tree TextItem)

def spelled (text : String) : List TextItem :=
  text.toUTF8.data.toList.map .byte

def nestedTree (outer inner text : String) : Tree :=
  .object [(spelled outer, .object [(spelled inner, .text (spelled text))])]

def nestedBody (outer inner text : String) : List UInt8 :=
  ("\x7b\"" ++ outer ++ "\":\x7b\"" ++ inner ++ "\":\"" ++ text ++
    "\"\x7d\x7d").toUTF8.data.toList

def roleCredentials (secretId : String) : Credentials :=
  .appRole "role" (some ⟨secretId⟩)

def roleStore (secretId : String) : StoreSettings :=
  .vault { host := "http://vault.test", credentials := roleCredentials secretId }

def roleSettings (secretId : String) : Settings where
  mapping := .byId
  store := roleStore secretId

def roleChoices (secretId : String) : List Choice :=
  [.mapping "\x7b\x7b .ID \x7d\x7d", .enable .vault, .host "http://vault.test",
    .credentials (roleCredentials secretId)]

def roleText (secretId : String) : String :=
  "mapping = '\x7b\x7b .ID \x7d\x7d'\n[backend]\ntype = 'vault'\nhost = 'http://vault.test'\n" ++
    "[backend.auth]\nmethod = 'app_role'\nrole_id = 'role'\nsecret_id = '" ++ secretId ++ "'\n"

def roleCalls : List Call :=
  [.get "a", .getString "b"]

def twoReplies (token value : String) : Scene where
  replies := some
    [.ok ⟨200, .whole (nestedBody "auth" "client_token" token)⟩,
      .ok ⟨200, .whole (nestedBody "data" "value" value)⟩]

def roleScene (text token value : String) : Scene :=
  { twoReplies token value with
    files := FileTree.put {} "settings" (.file text.toUTF8)
    environment := [("SECRET", value.toUTF8)] }

theorem read_roleText (secretId : String) (mem : secretId = "s1" ∨ secretId = "s2") :
    SettingsDocument.read (roleText secretId) =
      .ok { mapping := "\x7b\x7b .ID \x7d\x7d", store := roleStore secretId } := by
  rcases mem with rfl | rfl <;> decide +kernel

theorem ofText_roleText (secretId : String) (mem : secretId = "s1" ∨ secretId = "s2") :
    Settings.ofText (roleText secretId) = .ok (roleSettings secretId) := by
  rw [Settings.ofText, read_roleText secretId mem]
  rcases mem with rfl | rfl <;> decide +kernel

theorem text_roleScene (text token value : String) :
    (roleScene text token value).files.text "settings" = .ok text := by
  have placed : ({} : FileTree).place "settings" = .ok ["settings"] := by decide +kernel
  have free : ({} : FileTree).node? ["settings"] ≠ some .directory := nofun
  exact FileTree.reads_iff.1 (.text (FileTree.read_put placed free))

theorem alike_roleScenes : Scene.Alike (roleStore "s1") (asked (roleSettings "s1") roleCalls)
    ((roleStore "s1").RepliesAlike 1) (roleScene (roleText "s1") "t1" "v1")
    (roleScene (roleText "s2") "t2" "v2") := by
  have named : Environment.VariableAlike ("SECRET", "v1".toUTF8) ("SECRET", "v2".toUTF8) :=
    ⟨rfl, by decide, iff_of_true (String.isValidUTF8 "v1") (String.isValidUTF8 "v2")⟩
  refine
    { files := fun appId path given => by cases given
      delays := .nil
      environment := .cons named .nil
      unmistakable := fun given => by cases given
      isServed_eq := rfl
      replies := fun i => ?_
      log_eq := rfl }
  match i with
  | 0 =>
    have parsed : Tree.parse (nestedBody "auth" "client_token" "t1") =
        some (nestedTree "auth" "client_token" "t1") := by with_unfolding_all rfl
    have parsed' : Tree.parse (nestedBody "auth" "client_token" "t2") =
        some (nestedTree "auth" "client_token" "t2") := by with_unfolding_all rfl
    have spells : TextItem.string? (spelled "t1") = some "t1" := by decide
    have spells' : TextItem.string? (spelled "t2") = some "t2" := by decide
    have differs : LoginDiffers (nestedTree "auth" "client_token" "t1")
        (nestedTree "auth" "client_token" "t2") :=
      .named (.intro [] [] (by decide)
        (.named (.intro [] [] (by decide) (.intro spells spells' ⟨rfl, by decide⟩))))
    exact .ok (.good (by decide) parsed parsed' differs (by decide +kernel) fun _ => rfl)
  | 1 =>
    have parsed : Tree.parse (nestedBody "data" "value" "v1") =
        some (nestedTree "data" "value" "v1") := by with_unfolding_all rfl
    have parsed' : Tree.parse (nestedBody "data" "value" "v2") =
        some (nestedTree "data" "value" "v2") := by with_unfolding_all rfl
    have spells : TextItem.string? (spelled "v1") = some "v1" := by decide
    have spells' : TextItem.string? (spelled "v2") = some "v2" := by decide
    have differs : ReadDiffers "value" (nestedTree "data" "value" "v1")
        (nestedTree "data" "value" "v2") :=
      .named (.intro [] [] (by decide)
        (.inl (.intro [] [] (by decide) (.intro spells spells' trivial))))
    exact .ok (.good (by decide) parsed parsed' differs (by decide +kernel) fun _ => rfl)
  | n + 2 => exact .ok (.same _)

theorem secrets_unseen_two_roles :
    let s := roleScene (roleText "s1") "t1" "v1"
    let s' := roleScene (roleText "s2") "t2" "v2"
    let ended := (lifetime (roleSettings "s1") roleCalls : StateM Scene _).run s
    let ended' := (lifetime (roleSettings "s2") roleCalls : StateM Scene _).run s'
    Agree Settings.Alike (Draft.ofChoices (roleChoices "s1")).settings
        (Draft.ofChoices (roleChoices "s2")).settings ∧
      (Draft.ofChoices (roleChoices "s1")).settings = .ok (roleSettings "s1") ∧
      Agree Settings.Alike (Settings.ofText (roleText "s1")) (Settings.ofText (roleText "s2")) ∧
      Settings.ofText (roleText "s1") = .ok (roleSettings "s1") ∧
      Agree Settings.Alike ((Settings.load "settings" : StateM Scene _).run s).1
        ((Settings.load "settings" : StateM Scene _).run s').1 ∧
      ((Settings.load "settings" : StateM Scene _).run s).1 = .ok (roleSettings "s1") ∧
      ended.1.map (·.map Answer.outcome) = ended'.1.map (·.map Answer.outcome) ∧
      ended.2.log = ended'.2.log ∧
      ended.2.requests.map (·.header? "X-Vault-Token") = [none, some "t1", some "t1"] ∧
      ended'.2.requests.map (·.header? "X-Vault-Token") = [none, some "t2", some "t2"] := by
  intro s s' ended ended'
  have credentials : (roleCredentials "s1").Alike (roleCredentials "s2") :=
    .appRoleSecret "role" rfl
  have choices : List.Forall₂ Choice.Alike (roleChoices "s1") (roleChoices "s2") :=
    .cons (.same _) (.cons (.same _) (.cons (.same _) (.cons (.credentials credentials) .nil)))
  have same : (roleSettings "s1").Alike (roleSettings "s2") := ⟨rfl, .vault _ credentials⟩
  have texts : SettingsDocument.TextsAlike (roleText "s1") (roleText "s2") := by
    rw [SettingsDocument.TextsAlike, read_roleText "s1" (.inl rfl), read_roleText "s2" (.inr rfl)]
    exact .ok ⟨rfl, same.store⟩
  have files : Agree SettingsDocument.TextsAlike (s.files.text "settings")
      (s'.files.text "settings") := by
    rw [text_roleScene, text_roleScene]
    exact .ok texts
  have sent : sentForSetup (roleSettings "s1") s = 1 := by decide +kernel
  have alike := alike_roleScenes
  rw [← sent] at alike
  obtain ⟨ofChoices, ofTexts, ofFiles, ofSettings⟩ := secrets_unseen
  obtain ⟨-, outcome_eq, log_eq⟩ := ofSettings _ _ _ _ roleCalls same alike
  have loaded :
      ((Settings.load "settings" : StateM Scene _).run s).1 = .ok (roleSettings "s1") := by
    rw [Settings.run_load, text_roleScene, Except.mapError, Except.bind,
      ofText_roleText "s1" (.inl rfl)]
  exact ⟨ofChoices _ _ choices, by decide +kernel, ofTexts _ _ texts,
    ofText_roleText "s1" (.inl rfl), (ofFiles _ _ _ files).1, loaded, outcome_eq, log_eq,
    by decide +kernel, by decide +kernel⟩

-- A library that says how far it came before it complained, and reads a line at most.
abbrev measuring : Libraries where
  jsonComplaint text := s!"expected a string at line 1 column {text.length - 1}"
  tomlComplaint := Libraries.usual.tomlComplaint
  addressComplaint := Libraries.usual.addressComplaint
  headerComplaint := Libraries.usual.headerComplaint
  bodyComplaint := Libraries.usual.bodyComplaint
  redirectComplaint? := Libraries.usual.redirectComplaint?
  status_of_redirect := Libraries.usual.status_of_redirect
  bodyLimit := 40
  isShown := Libraries.usual.isShown

def outcomeOfGet [Libraries] (store : StoreSettings) (id : String) (s : Scene) :
    Except Failure (List (Except Failure Unit)) :=
  ((lifetime { mapping := .byId, store } [.get id] : StateM Scene _).run s).1.map
    (·.map Answer.outcome)

def variableScene (value : String) : Scene where
  environment := [("A", value.toUTF8)]

def mixedFileScene (value : String) : Scene where
  files := FileTree.put {} "secrets" (.file ("\x7b\"a\":\"" ++ value ++ "\",\"b\":1\x7d").toUTF8)

def valueScene (value : String) : Scene where
  replies := some [.ok ⟨200, .whole (nestedBody "data" "value" value)⟩]

theorem secret_told_by_name_column_or_size :
    let tokenStore := StoreSettings.vault
      { host := "http://vault.test", credentials := .token ⟨"t"⟩ }
    (outcomeOfGet .environment "A=B" (variableScene "B=C") = .ok [.ok ()] ∧
        outcomeOfGet .environment "A=B" (variableScene "X") =
          .ok [.error (.notFound "Environment variable 'A=B' not set")]) ∧
      (@outcomeOfGet measuring (.jsonFile "secrets") "a" (mixedFileScene "x") =
          .ok [.error (.parse "secrets" "expected a string at line 1 column 14")] ∧
        @outcomeOfGet measuring (.jsonFile "secrets") "a" (mixedFileScene "longer") =
          .ok [.error (.parse "secrets" "expected a string at line 1 column 19")]) ∧
      (@outcomeOfGet measuring tokenStore "a" (valueScene "v") = .ok [.ok ()] ∧
        @outcomeOfGet measuring tokenStore "a" (valueScene "as long as the others together") =
          .ok [.error (.fetch "vault" "invalid read response: the body is malformed")]) := by
  intro tokenStore
  refine ⟨⟨?_, ?_⟩, ⟨?_, ?_⟩, ?_, ?_⟩ <;> decide +kernel

end

end Resolver

end SecretResolver
