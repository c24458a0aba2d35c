import Mathlib.Data.List.Basic
import Mathlib.Data.List.Induction
import SecretResolver.Proofs.Template.Compile
import SecretResolver.Settings.Draft

set_option autoImplicit false

namespace SecretResolver

inductive Topic where
  | mapping
  | host
  | credentials
  | retries
  | retryDelay
  | tenant
  | valueField
  | timeout
  | fileLocation
  deriving DecidableEq

abbrev Topic.Argument : Topic → Type
  | mapping | host | tenant | valueField | fileLocation => String
  | credentials => Credentials
  | retries => UInt32
  | retryDelay | timeout => UInt64

namespace Choice

def argument? : (topic : Topic) → Choice → Option topic.Argument
  | .mapping, .mapping source => some source
  | .host, .host name => some name
  | .credentials, .credentials shown => some shown
  | .retries, .retries count => some count
  | .retryDelay, .retryDelay seconds => some seconds
  | .tenant, .tenant name => some name
  | .valueField, .valueField field => some field
  | .timeout, .timeout seconds => some seconds
  | .fileLocation, .fileLocation path => some path
  | _, _ => none

def store? : Choice → Option StoreKind
  | enable kind => some kind
  | _ => none

def arguments (topic : Topic) (choices : List Choice) : List topic.Argument :=
  choices.filterMap (argument? topic)

def last (topic : Topic) (choices : List Choice) : Option topic.Argument :=
  (arguments topic choices).getLast?

def stores (choices : List Choice) : List StoreKind :=
  choices.filterMap store?

theorem last_append_singleton (topic : Topic) (choices : List Choice) (choice : Choice) :
    last topic (choices ++ [choice]) = (choice.argument? topic).or (last topic choices) := by
  cases given : choice.argument? topic <;> simp [last, arguments, given]

theorem stores_append_singleton (choices : List Choice) (choice : Choice) :
    stores (choices ++ [choice]) = stores choices ++ choice.store?.toList := by
  cases given : choice.store? <;> simp [stores, given]

structure Agree (choices choices' : List Choice) : Prop where
  last_eq : ∀ topic, last topic choices = last topic choices'
  count_eq : (stores choices).length = (stores choices').length
  store_eq : (stores choices).length = 1 → stores choices = stores choices'

theorem Agree.of_perm {order choices : List Choice} (perm : order.Perm choices)
    (kept : ∀ topic, arguments topic order = arguments topic choices) : Agree order choices where
  last_eq topic := by rw [last, last, kept topic]
  count_eq := (perm.filterMap store?).length_eq
  store_eq one := by
    obtain ⟨kind, stores_eq⟩ := List.length_eq_one_iff.1 one
    have same := perm.filterMap store?
    rw [← stores, ← stores, stores_eq] at same
    rw [stores_eq, List.singleton_perm.1 same]

theorem store?_of_argument? {topic : Topic} {choice : Choice}
    (given : (choice.argument? topic).isSome) : choice.store? = none := by
  cases topic <;> cases choice <;> first | rfl | cases given

theorem topic_unique {topic other : Topic} {choice : Choice}
    (given : (choice.argument? topic).isSome) (also : (choice.argument? other).isSome) :
    other = topic := by
  cases choice <;> cases topic <;> first
    | (cases given; done)
    | cases other <;> first | rfl | cases also

theorem last_append_of_given {topic : Topic} {choice : Choice} (before after : List Choice)
    (given : (choice.argument? topic).isSome) :
    last topic (before ++ choice :: after) = last topic (choice :: after) := by
  obtain ⟨argument, argument_eq⟩ := Option.isSome_iff_exists.1 given
  rw [last, last, arguments, arguments, List.filterMap_append, List.filterMap_cons_some argument_eq,
    List.getLast?_append_cons]

-- A choice has one topic, so what is overridden is not seen in any other.
theorem Agree.of_overridden {topic : Topic} {old new : Choice} (before between after : List Choice)
    (given : (old.argument? topic).isSome) (anew : (new.argument? topic).isSome) :
    Agree (before ++ old :: between ++ new :: after) (before ++ between ++ new :: after) := by
  have stores_eq : stores (before ++ old :: between ++ new :: after) =
      stores (before ++ between ++ new :: after) := by
    simp [stores, store?_of_argument? given]
  refine ⟨?_, congrArg _ stores_eq, fun _ => stores_eq⟩
  intro other
  by_cases same : other = topic
  · subst same
    rw [last_append_of_given _ _ anew, last_append_of_given _ _ anew]
  · have absent : old.argument? other = none := by
      cases also : old.argument? other with
      | none => rfl
      | some argument => exact absurd (topic_unique given (by rw [also]; rfl)) same
    simp [last, arguments, absent]

end Choice

open Choice

namespace Draft

theorem ofChoices_append_singleton (choices : List Choice) (choice : Choice) :
    ofChoices (choices ++ [choice]) = (ofChoices choices).choose choice := by
  simp [ofChoices]

theorem ofChoices_eq (choices : List Choice) : ofChoices choices =
    { mapping := last .mapping choices
      enabled := (stores choices).reverse
      vault :=
        { host := last .host choices
          credentials := last .credentials choices
          retries := last .retries choices
          retryDelay := last .retryDelay choices
          tenant := last .tenant choices
          valueField := last .valueField choices
          timeout := last .timeout choices }
      fileLocation := last .fileLocation choices } := by
  induction choices using List.reverseRecOn with
  | nil => rfl
  | append_singleton choices choice ih =>
    rw [ofChoices_append_singleton, ih]
    cases choice <;>
      simp [choose, last_append_singleton, stores_append_singleton, argument?, store?]

theorem settings_congr {d d' : Draft} (kind_eq : d.kind = d'.kind)
    (mapping_eq : d.mapping = d'.mapping) (store_eq : ∀ kind, d.store kind = d'.store kind) :
    d.settings = d'.settings := by
  simp only [settings, kind_eq, mapping_eq, store_eq]

theorem kind_congr {d d' : Draft} (vault_eq : d.vault = d'.vault)
    (location_eq : d.fileLocation = d'.fileLocation)
    (count_eq : d.enabled.length = d'.enabled.length)
    (one : d.enabled.length = 1 → d.enabled = d'.enabled) : d.kind = d'.kind := by
  by_cases single : d.enabled.length = 1
  · simp only [kind, one single, vault_eq, location_eq]
  · have several (enabled : List StoreKind) (length_eq : enabled.length = d.enabled.length) :
        ∀ kind, enabled ≠ [kind] := by
      rintro kind rfl
      exact single length_eq.symm
    unfold kind
    split
    · next kind enabled_eq => exact absurd enabled_eq (several _ rfl kind)
    split
    · next kind enabled_eq => exact absurd enabled_eq (several _ count_eq.symm kind)
    · rw [count_eq]

theorem settings_eq_of_agree {choices choices' : List Choice}
    (agree : Choice.Agree choices choices') :
    (ofChoices choices).settings = (ofChoices choices').settings := by
  obtain ⟨last_eq, count_eq, store_eq⟩ := agree
  rw [ofChoices_eq, ofChoices_eq]
  simp only [last_eq]
  apply settings_congr
  · apply kind_congr
    · rfl
    · rfl
    · simpa using count_eq
    · simpa using store_eq
  · rfl
  · exact fun kind => rfl

theorem later_choices_count :
    (∀ choices choices' : List Choice, Choice.Agree choices choices' →
      (ofChoices choices).settings = (ofChoices choices').settings) ∧
    (∀ order choices : List Choice, order.Perm choices →
      (∀ topic, arguments topic order = arguments topic choices) →
        (ofChoices order).settings = (ofChoices choices).settings) ∧
    ∀ (topic : Topic) (old new : Choice) (before between after : List Choice),
      (old.argument? topic).isSome → (new.argument? topic).isSome →
        (ofChoices (before ++ old :: between ++ new :: after)).settings =
          (ofChoices (before ++ between ++ new :: after)).settings := by
  refine ⟨fun choices choices' agree => settings_eq_of_agree agree, ?_, ?_⟩
  · intro order choices perm kept
    exact settings_eq_of_agree (.of_perm perm kept)
  · intro topic old new before between after given anew
    exact settings_eq_of_agree (.of_overridden before between after given anew)

def hesitant : List Choice :=
  [.host "vault.test", .mapping "\x7b\x7b", .enable .vault, .credentials (.token ⟨""⟩), .retries 2,
    .host "https://vault.test", .mapping Template.byId.source, .credentials (.token ⟨"token"⟩)]

def resolute : List Choice :=
  [.enable .vault, .host "https://vault.test", .credentials (.token ⟨"token"⟩),
    .mapping Template.byId.source, .retries 2]

theorem later_choices_count_hesitant :
    Choice.Agree hesitant resolute ∧
      (ofChoices hesitant).settings = (ofChoices resolute).settings ∧
    resolute.reverse.Perm resolute ∧
      (∀ topic, arguments topic resolute.reverse = arguments topic resolute) ∧
      (ofChoices resolute.reverse).settings = (ofChoices resolute).settings ∧
    (argument? .host (.host "vault.test")).isSome ∧
      (argument? .host (.host "https://vault.test")).isSome ∧
      (ofChoices (.host "vault.test" :: resolute)).settings = (ofChoices resolute).settings ∧
    (ofChoices resolute).settings = .ok
      { mapping := .byId
        store := .vault
          { host := "https://vault.test", credentials := .token ⟨"token"⟩, retries := 2 } } := by
  obtain ⟨same, reordered, overridden⟩ := later_choices_count
  have agree : Choice.Agree hesitant resolute :=
    { last_eq := fun topic => by cases topic <;> rfl, count_eq := rfl, store_eq := fun _ => rfl }
  have perm : resolute.reverse.Perm resolute := List.reverse_perm _
  have kept (topic : Topic) : arguments topic resolute.reverse = arguments topic resolute := by
    cases topic <;> rfl
  refine ⟨agree, same _ _ agree, perm, kept, reordered _ _ perm kept, rfl, rfl, ?_, ?_⟩
  · exact overridden .host (.host "vault.test") (.host "https://vault.test") [] [.enable .vault]
      [.credentials (.token ⟨"token"⟩), .mapping Template.byId.source, .retries 2] rfl rfl
  · simp only [resolute, ofChoices, List.foldl, choose, settings]
    rw [Template.compiled, Template.compile_source]
    rfl

end Draft

end SecretResolver
