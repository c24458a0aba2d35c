import SecretResolver.Proofs.Resolver.Stock
import SecretResolver.Proofs.Vault.Address
import SecretResolver.Proofs.Vault.Outcomes

set_option autoImplicit false

namespace SecretResolver.Vault

open Http (Reply)
open Json (Tree)

inductive IsPayload (field value : String) : Option Json → Json → Prop where
  | plain : IsPayload field value none (.object [(field, .string value)])
  | versioned (metadata : Json) : IsPayload field value (some metadata)
      (.object [("data", .object [(field, .string value)]), ("metadata", metadata)])
  | metadataFirst (metadata : Json) : IsPayload field value (some metadata)
      (.object [("metadata", metadata), ("data", .object [(field, .string value)])])

-- The reply holds the value, and is no longer than what is read of a reply.
structure Gives [Libraries] (field value : String) (metadata : Option Json) (reply : Reply) :
    Prop where
  ok : reply.status = 200
  body : ∃ (text : String) (payload : Json), reply.body = .whole text.toUTF8.data.toList ∧
    IsPayload field value metadata payload ∧
      Json.WritesPadded text.toList (.object [("data", payload)]) ∧
        text.utf8ByteSize < Libraries.bodyLimit

structure Serves [Libraries] (serve : String → Reply) (field : String) (stock : Stock)
    (metadata : String → Option Json) : Prop where
  found : ∀ name value, stock.value? name = some value →
    Gives field value (metadata name) (serve ("/v1/" ++ name))
  missing : ∀ name, stock.value? name = none → (serve ("/v1/" ++ name)).status = 404

theorem value_of_isPayload {field value : String} {metadata : Option Json} {payload : Json}
    (isPayload : IsPayload field value metadata payload) (path : String) :
    Payload.value payload field path = .ok value.toUTF8 := by
  cases isPayload with
  | plain =>
    have inner_eq : Payload.inner (.object [(field, .string value)]) =
        .object [(field, .string value)] := by
      by_cases data : field = "data" <;> simp [Payload.inner, Json.get?, Json.lastOf, data]
    simp [Payload.value, inner_eq, Json.get?, Json.lastOf]
  | versioned | metadataFirst =>
    simp [Payload.value, Payload.inner, Json.get?, Json.lastOf]

theorem depth_of_isPayload {field value : String} {metadata : Option Json} {payload : Json}
    (isPayload : IsPayload field value metadata payload) :
    payload.depth ≤ Answer.maxDataDepth ↔ ∀ written ∈ metadata, written.depth ≤ 125 := by
  cases isPayload with
  | plain => simp [Json.depth, Json.membersDepth, Answer.maxDataDepth]
  | versioned written | metadataFirst written =>
    have only : (∀ written' ∈ some written, written'.depth ≤ 125) ↔ written.depth ≤ 125 := by simp
    rw [only]
    simp only [Json.depth, Json.membersDepth, Answer.maxDataDepth]
    omega

theorem data?_of_writes {text : List Char} {payload : Json} (not_null : payload ≠ .null)
    (writes : Json.WritesPadded text (.object [("data", payload)])) :
    Answer.data? (Text.utf8 text) =
      if payload.depth ≤ Answer.maxDataDepth then some (some payload) else none := by
  obtain ⟨trees, parsed, means⟩ := Tree.exists_parse_object writes
  cases means with
  | @cons tree _ _ _ first rest =>
    cases rest
    obtain ⟨named, means⟩ := first
    have written_not_null : tree.2 ≠ .null := by
      intro null
      have value := means payload.depth
      rw [null, if_pos (Nat.le_refl _)] at value
      cases value
      exact not_null rfl
    have members : (Tree.object [tree]).members? = some [("data", tree.2)] := by
      simp [Tree.members?, named]
    have only : Record.only? "data" [("data", tree.2)] = some (some tree.2) := rfl
    rw [Answer.data?_eq_fieldOf parsed, Tree.fieldOf_named members, only, Option.bind_some,
      Tree.optional?_of_ne_null _ written_not_null, means Answer.maxDataDepth]
    by_cases fits : payload.depth ≤ Answer.maxDataDepth <;> simp [fits]

theorem not_null_of_isPayload {field value : String} {metadata : Option Json} {payload : Json}
    (isPayload : IsPayload field value metadata payload) : payload ≠ .null := by
  cases isPayload <;> simp

section

variable [Libraries] {field value : String} {metadata : Option Json} {reply : Reply}

theorem data_of_gives (gives : Gives field value metadata reply) : ∃ bytes payload,
    (∀ other, reply.Holds other ↔ other = bytes) ∧ IsPayload field value metadata payload ∧
      Answer.data? bytes =
        if payload.depth ≤ Answer.maxDataDepth then some (some payload) else none := by
  obtain ⟨text, payload, body_eq, isPayload, writes, within⟩ := gives.body
  refine ⟨Text.utf8 text.toList, payload, fun other => ?_, isPayload,
    data?_of_writes (not_null_of_isPayload isPayload) writes⟩
  rw [← Reply.content?_eq_some_iff, ← Text.toList_toUTF8]
  simp [Reply.content?, Reply.hasBody, gives.ok, body_eq, eq_comm, within]

theorem Gives.stands (gives : Gives field value metadata reply) : Answer.Stands reply :=
  Answer.stands_of_status (.inl (by rw [gives.ok]; decide))

theorem read_of_gives (gives : Gives field value metadata reply)
    (shallow : ∀ written ∈ metadata, written.depth ≤ 125) (path : String) :
    ∃ payload, Answer.read path reply = .ok payload ∧ IsPayload field value metadata payload := by
  obtain ⟨bytes, payload, holds, isPayload, decoded⟩ := data_of_gives gives
  rw [if_pos ((depth_of_isPayload isPayload).2 shallow)] at decoded
  refine ⟨payload, ?_, isPayload⟩
  apply ((Answer.readOutcome_read path gives.stands).ok_iff payload).2
  exact ⟨reply, rfl, by simp [Reply.Success, gives.ok], bytes, (holds bytes).2 rfl,
    Answer.data?_eq_some_iff.1 decoded⟩

theorem read_of_deep {deep : Json} (gives : Gives field value (some deep) reply)
    (tooDeep : 125 < deep.depth) (path : String) :
    ∃ problem, Answer.read path reply = .error (.fetch "vault" problem) := by
  obtain ⟨bytes, payload, holds, isPayload, decoded⟩ := data_of_gives gives
  have unheld : ¬ payload.depth ≤ Answer.maxDataDepth := by
    rw [depth_of_isPayload isPayload]
    simpa using tooDeep
  rw [if_neg unheld] at decoded
  apply (Answer.readOutcome_read path gives.stands).fetch_iff.2
  rintro _ ⟨⟩
  refine ⟨by simp [gives.ok], by simp [gives.ok], ?_⟩
  rintro - data ⟨other, held, has⟩
  obtain rfl := (holds other).1 held
  simp [Answer.data?_eq_some_iff.2 has] at decoded

end

theorem Serves.stands [Libraries] {serve : String → Reply} {field : String} {stock : Stock}
    {metadata : String → Option Json} (serves : Serves serve field stock metadata)
    (name : String) : Answer.Stands (serve ("/v1/" ++ name)) := by
  cases held : stock.value? name with
  | none =>
    have missing := serves.missing name held
    exact Answer.stands_of_status (.inr (by rw [missing]; decide))
  | some value => exact (serves.found name value held).stands

theorem finds_read [Libraries] {serve : String → Reply} {field : String} {stock : Stock}
    {metadata : String → Option Json} (serves : Serves serve field stock metadata)
    (shallow : ∀ name, ∀ written ∈ metadata name, written.depth ≤ 125) (location : String) :
    stock.Finds location ((Answer.read location (serve ("/v1/" ++ location))).bind fun data =>
      Payload.value data field location) := by
  unfold Stock.Finds
  cases held : stock.value? location with
  | none =>
    have outcome := Answer.readOutcome_read location (serves.stands location)
    obtain ⟨what, read⟩ := outcome.notFound_iff.2 ⟨_, rfl, .inl (serves.missing location held)⟩
    rw [read]
    exact ⟨_, rfl, rfl⟩
  | some value =>
    obtain ⟨payload, read, isPayload⟩ :=
      read_of_gives (serves.found location value held) (shallow location) location
    rw [read]
    exact value_of_isPayload isPayload location

end SecretResolver.Vault
