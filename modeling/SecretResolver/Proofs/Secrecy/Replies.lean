import SecretResolver.Proofs.Secrecy.Alike
import SecretResolver.Proofs.Vault.Decoding
import SecretResolver.Vault.Payload

set_option autoImplicit false

namespace SecretResolver

open Json (Tree)

def BothTexts (bytes bytes' : ByteArray) : Prop :=
  bytes.IsValidUTF8 ∧ bytes'.IsValidUTF8

namespace Http.Reply

variable [Libraries] {α : Type} {what : String} {decode : List UInt8 → Option α}
  {Differs : Tree → Tree → Prop} {reply reply' : Http.Reply}

theorem Alike.status_eq (alike : Alike what decode Differs reply reply') :
    reply.status = reply'.status := by
  cases alike <;> rfl

theorem Alike.isSuccess_eq (alike : Alike what decode Differs reply reply') :
    reply.isSuccess = reply'.isSuccess := by
  rw [isSuccess, isSuccess, alike.status_eq]

theorem Alike.agree_settled (alike : Alike what decode Differs reply reply') :
    Agree (Alike what decode Differs) reply.settled reply'.settled := by
  unfold settled
  rw [← alike.status_eq]
  cases Libraries.redirectComplaint? reply.status with
  | some complaint => exact .error complaint
  | none => exact .ok alike

end Http.Reply

namespace Vault.Answer

variable {bytes bytes' : List UInt8} {tree tree' : Tree}

theorem errors?_eq {name : String} (parsed : Tree.parse bytes = some tree)
    (parsed' : Tree.parse bytes' = some tree') (noErrors : name ≠ "errors")
    (differs : tree.MemberDiffers name (fun _ _ => True) tree') :
    errors? bytes = errors? bytes' := by
  rw [errors?_eq_fieldOf parsed, errors?_eq_fieldOf parsed',
    Tree.fieldOf_eq_of_ne noErrors differs]

theorem rel_client (differs : tree.FieldDiffers "client_token"
    (Tree.TextDiffers fun t t' => Secret.SameToken ⟨t⟩ ⟨t'⟩) tree') :
    Option.Rel Secret.SameToken (token?.client tree) (token?.client tree') := by
  rw [client_eq_fieldOf, client_eq_fieldOf]
  refine rel_bind (Tree.rel_fieldOf differs) ?_
  rintro _ _ ⟨token, token', rfl, rfl, differ⟩
  simp only [Option.bind_some]
  exact rel_bind (Tree.rel_string? differ) fun _ _ => .some

theorem rel_token? (parsed : Tree.parse bytes = some tree)
    (parsed' : Tree.parse bytes' = some tree') (differs : LoginDiffers tree tree') :
    Option.Rel (Option.Rel Secret.SameToken) (token? bytes) (token? bytes') := by
  rw [token?_eq_fieldOf parsed, token?_eq_fieldOf parsed']
  refine rel_bind (Tree.rel_fieldOf differs) ?_
  rintro _ _ ⟨auth, auth', rfl, rfl, differ⟩
  obtain ⟨client_eq, client_eq'⟩ := Tree.optional?_of_fieldDiffers token?.client differ
  rw [client_eq, client_eq']
  exact rel_map_some (fun _ _ => id) (rel_client differ)

end Vault.Answer

inductive DataAlike (field : String) : Json → Json → Prop where
  | same (data : Json) : DataAlike field data data
  | direct {data data' : Json} (differs : data.MemberDiffers field Json.BothStrings data') :
      DataAlike field data data'
  | nested {data data' : Json}
      (differs : data.MemberDiffers "data" (Json.MemberDiffers field Json.BothStrings) data') :
      DataAlike field data data'

theorem Vault.Answer.rel_data? {bytes bytes' : List UInt8} {tree tree' : Tree} {field : String}
    (parsed : Tree.parse bytes = some tree) (parsed' : Tree.parse bytes' = some tree')
    (differs : ReadDiffers field tree tree') :
    Option.Rel (Option.Rel (DataAlike field)) (data? bytes) (data? bytes') := by
  rw [data?_eq_fieldOf parsed, data?_eq_fieldOf parsed']
  refine rel_bind (Tree.rel_fieldOf differs) ?_
  rintro _ _ ⟨data, data', rfl, rfl, differ⟩
  have texts {tree tree' : Tree}
      (differ : tree.MemberDiffers field (Tree.TextDiffers AnyTexts) tree') (depth : Nat) :
      Option.Rel (Json.MemberDiffers field Json.BothStrings)
        (Tree.value? depth tree) (Tree.value? depth tree') :=
    Tree.rel_value?_of_memberDiffers
      (fun differ depth => Tree.rel_value?_of_textDiffers depth differ)
      depth differ
  rcases differ with direct | nested
  · obtain ⟨value_eq, value_eq'⟩ :=
      Tree.optional?_of_fieldDiffers (Tree.value? maxDataDepth) (.named direct)
    rw [value_eq, value_eq']
    exact rel_map_some (fun _ _ => .direct) (texts direct maxDataDepth)
  · obtain ⟨value_eq, value_eq'⟩ :=
      Tree.optional?_of_fieldDiffers (Tree.value? maxDataDepth) (.named nested)
    rw [value_eq, value_eq']
    exact rel_map_some (fun _ _ => .nested)
      (Tree.rel_value?_of_memberDiffers texts maxDataDepth nested)

-- whether a body is looked at depends on the status and on its length
theorem Http.Reply.content?_cases [Libraries] {bytes bytes' : List UInt8} (status : Nat)
    (sized : bytes.length < Libraries.bodyLimit ↔ bytes'.length < Libraries.bodyLimit) :
    content? ⟨status, .whole bytes⟩ = content? ⟨status, .whole bytes'⟩ ∨
      (content? ⟨status, .whole bytes⟩ = some bytes ∧
        content? ⟨status, .whole bytes'⟩ = some bytes') := by
  have same : hasBody ⟨status, .whole bytes'⟩ = hasBody ⟨status, .whole bytes⟩ := rfl
  unfold content?
  rw [same]
  cases hasBody ⟨status, .whole bytes⟩ with
  | false => exact .inl rfl
  | true =>
    by_cases within : bytes.length < Libraries.bodyLimit
    · exact .inr ⟨if_pos within, if_pos (sized.1 within)⟩
    · exact .inl ((if_neg within).trans (if_neg (mt sized.2 within)).symm)

theorem Http.Reply.isSuccess_iff (status : Nat) (body : Http.Body) :
    isSuccess ⟨status, body⟩ = true ↔ 200 ≤ status ∧ status < 300 := by
  simp [isSuccess]

namespace Vault.Answer

variable [Libraries] {α : Type} {what : String} {decode : List UInt8 → Option α}
  {Differs : Tree → Tree → Prop} {reply reply' : Http.Reply}

theorem detail_eq (alike : reply.Alike what decode Differs reply')
    (refused : reply.isSuccess = false) : detail reply = detail reply' := by
  cases alike with
  | same => rfl
  | good success =>
    rw [(Http.Reply.isSuccess_iff _ _).2 success] at refused
    cases refused
  | @refusal status _ _ _ _ _ _ parsed parsed' noErrors differs sized =>
    unfold detail
    rcases Http.Reply.content?_cases status sized with same | ⟨content, content'⟩
    · rw [same]
    · rw [content, content', Option.bind_some, Option.bind_some,
        errors?_eq parsed parsed' noErrors differs]

theorem agree_readWith {S : α → α → Prop} (same : ∀ value, S value value)
    (alike : reply.Alike what decode Differs reply') (success : reply.isSuccess = true)
    (decoded : ∀ {bytes bytes' : List UInt8} {tree tree' : Tree}, Tree.parse bytes = some tree →
      Tree.parse bytes' = some tree' → Differs tree tree' →
        Option.Rel S (decode bytes) (decode bytes')) :
    Agree S (readWith what decode reply) (readWith what decode reply') := by
  cases alike with
  | same => exact .refl same _
  | refusal refused => exact absurd ((Http.Reply.isSuccess_iff _ _).1 success) refused
  | @good status bytes bytes' _ _ _ parsed parsed' differs sized told =>
    have read : Option.Rel S ((Http.Reply.content? ⟨status, .whole bytes⟩).bind decode)
        ((Http.Reply.content? ⟨status, .whole bytes'⟩).bind decode) := by
      rcases Http.Reply.content?_cases status sized with alike | ⟨content, content'⟩
      · rw [alike]
        exact rel_refl same _
      · rw [content, content']
        exact decoded parsed parsed' differs
    unfold readWith
    rcases cases_of_rel read with ⟨bad, bad'⟩ | ⟨value, value', good, good', related⟩
    · rw [bad, bad', told bad]
      exact .error _
    · rw [good, good']
      exact .ok related

theorem agree_login (mount : String) (alike : reply.LoginAlike reply') :
    Agree Secret.SameToken (login mount reply) (login mount reply') := by
  unfold login
  rw [← alike.isSuccess_eq, ← alike.status_eq]
  cases success : reply.isSuccess with
  | false =>
    rw [detail_eq alike success]
    exact .error _
  | true =>
    have read := agree_readWith (rel_refl fun _ => ⟨rfl, rfl⟩) alike success rel_token?
    revert read
    generalize readWith "login" token? reply = result
    generalize readWith "login" token? reply' = result'
    intro read
    cases read with
    | error failure => exact .error _
    | ok related =>
      cases related with
      | none => exact .error _
      | @some token token' same =>
        simp only [same.isEmpty_eq]
        cases token'.isEmpty with
        | true => exact .error _
        | false => exact .ok same

theorem agree_read (path : String) {field : String} (alike : reply.ReadAlike field reply') :
    Agree (DataAlike field) (read path reply) (read path reply') := by
  unfold read
  rw [← alike.isSuccess_eq, ← alike.status_eq]
  split
  · exact .error _
  split
  · next denied =>
    have refused : reply.isSuccess = false := by
      rw [Http.Reply.isSuccess, denied]
      rfl
    rw [detail_eq alike refused]
    exact .error _
  cases success : reply.isSuccess with
  | false =>
    rw [detail_eq alike success]
    exact .error _
  | true =>
    have read := agree_readWith (rel_refl .same) alike success rel_data?
    revert read
    generalize readWith "read" data? reply = result
    generalize readWith "read" data? reply' = result'
    intro read
    cases read with
    | error failure => exact .error _
    | ok related =>
      cases related with
      | none => exact .error _
      | some alike => exact .ok alike

end Vault.Answer

inductive Json.SameSort : Json → Json → Prop where
  | strings (text text' : String) : SameSort (.string text) (.string text')
  | objects (members members' : List (String × Json)) :
      SameSort (.object members) (.object members')

theorem Json.BothStrings.sameSort {value value' : Json} (both : BothStrings value value') :
    SameSort value value' := by
  cases both with
  | intro text text' => exact .strings text text'

theorem Json.BothStrings.get?_eq {value value' : Json} (both : BothStrings value value')
    (name : String) : value.get? name = value'.get? name := by
  cases both with
  | intro text text' => rfl

theorem Json.MemberDiffers.sameSort {name : String} {T : Json → Json → Prop} {value value' : Json}
    (differs : MemberDiffers name T value value') : SameSort value value' := by
  cases differs with
  | intro before after differ => exact .objects _ _

namespace Vault.Payload

theorem inner_eq (data : Json) : inner data =
    match data.get? "data" with
    | some (.object members) => if (data.get? "metadata").isSome then .object members else data
    | _ => data := by
  unfold inner
  cases data.get? "data" with
  | none => rfl
  | some wrapped => cases wrapped <;> first | rfl | (cases data.get? "metadata" <;> rfl)

variable {name : String} {T : Json → Json → Prop} {data data' : Json}

-- Both have the secret at one level, and there they differ in the same way or not at all.
theorem inner_cases (sorted : ∀ {value value' : Json}, T value value' → value.SameSort value')
    (differs : data.MemberDiffers name T data')
    (described : (data.get? "metadata").isSome = (data'.get? "metadata").isSome) :
    inner data = inner data' ∨ (inner data = data ∧ inner data' = data') ∨
      T (inner data) (inner data') := by
  rw [inner_eq, inner_eq, described]
  rcases differs.get?_cases "data" with same | ⟨-, related⟩
  · rw [← same]
    split
    · split
      · exact .inl rfl
      · exact .inr (.inl ⟨rfl, rfl⟩)
    · exact .inr (.inl ⟨rfl, rfl⟩)
  · rcases cases_of_rel related with
      ⟨none_eq, none_eq'⟩ | ⟨wrapped, wrapped', some_eq, some_eq', differ⟩
    · rw [none_eq, none_eq']
      exact .inr (.inl ⟨rfl, rfl⟩)
    · rw [some_eq, some_eq']
      cases sorted differ with
      | strings text text' => exact .inr (.inl ⟨rfl, rfl⟩)
      | objects members members' =>
        dsimp only
        split
        · exact .inr (.inr differ)
        · exact .inr (.inl ⟨rfl, rfl⟩)

theorem get?_cases (sorted : ∀ {value value' : Json}, T value value' → value.SameSort value')
    (differs : data.MemberDiffers name T data') (field : String) :
    data.get? field = data'.get? field ∨
      Option.Rel Json.SameSort (data.get? field) (data'.get? field) := by
  rcases differs.get?_cases field with same | ⟨-, related⟩
  · exact .inl same
  · rcases cases_of_rel related with
      ⟨none_eq, none_eq'⟩ | ⟨value, value', some_eq, some_eq', differ⟩
    · exact .inl (none_eq.trans none_eq'.symm)
    · rw [some_eq, some_eq']
      exact .inr (.some (sorted differ))

theorem found_cases {field : String} (alike : DataAlike field data data') :
    (inner data).get? field = (inner data').get? field ∨
      Option.Rel Json.SameSort ((inner data).get? field) ((inner data').get? field) := by
  cases alike with
  | same => exact .inl rfl
  | direct differs =>
    have described : (data.get? "metadata").isSome = (data'.get? "metadata").isSome := by
      rcases differs.get?_cases "metadata" with same | ⟨-, related⟩
      · rw [same]
      · exact isSome_eq_of_rel related
    rcases inner_cases Json.BothStrings.sameSort differs described with
      same | ⟨inner_eq, inner_eq'⟩ | both
    · exact .inl (congrArg _ same)
    · rw [inner_eq, inner_eq']
      exact get?_cases Json.BothStrings.sameSort differs field
    · exact .inl (both.get?_eq field)
  | nested differs =>
    have described : (data.get? "metadata").isSome = (data'.get? "metadata").isSome := by
      rcases differs.get?_cases "metadata" with same | ⟨other, -⟩
      · rw [same]
      · exact absurd other (by decide)
    rcases inner_cases Json.MemberDiffers.sameSort differs described with
      same | ⟨inner_eq, inner_eq'⟩ | within
    · exact .inl (congrArg _ same)
    · rw [inner_eq, inner_eq']
      exact get?_cases Json.MemberDiffers.sameSort differs field
    · exact get?_cases Json.BothStrings.sameSort within field

theorem agree_value (path : String) {field : String} (alike : DataAlike field data data') :
    Agree BothTexts (value data field path) (value data' field path) := by
  have found := found_cases alike
  have ok (text text' : String) :
      Agree (ε := Failure) BothTexts (.ok text.toUTF8) (.ok text'.toUTF8) :=
    .ok ⟨text.isValidUTF8, text'.isValidUTF8⟩
  unfold value
  revert found
  generalize (inner data).get? field = found
  generalize (inner data').get? field = found'
  rintro (rfl | related)
  · cases found with
    | none => exact .error _
    | some value => cases value <;> first | exact ok _ _ | exact .error _
  · cases related with
    | none => exact .error _
    | some same =>
      cases same with
      | strings text text' => exact ok text text'
      | objects members members' => exact .error _

end Vault.Payload

end SecretResolver
