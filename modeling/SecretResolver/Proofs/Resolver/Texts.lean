import SecretResolver.Proofs.Scene.Sending
import SecretResolver.Proofs.SecretsFile.Snapshot

set_option autoImplicit false

namespace SecretResolver

def IsText (bytes : ByteArray) : Prop :=
  ∃ text : String, bytes = text.toUTF8

theorem isText_of_isValidUTF8 {bytes : ByteArray} (valid : bytes.IsValidUTF8) : IsText bytes :=
  ⟨String.ofByteArray bytes valid, rfl⟩

theorem IfOk.any {ε α : Type} (result : Except ε α) : IfOk (fun _ => True) result :=
  fun _ _ => trivial

theorem Environment.isText_valueOf (name : String) (value : Option ByteArray) :
    IfOk IsText (valueOf name value) := by
  cases value with
  | none => exact .error _
  | some bytes =>
    by_cases valid : bytes.IsValidUTF8
    · rw [valueOf, if_pos valid]
      exact .ok (isText_of_isValidUTF8 valid)
    · rw [valueOf, if_neg valid]
      exact .error _

theorem SecretsFile.isText_valueAt (path key : String) (c : Contents) :
    IfOk IsText (valueAt path key c) := by
  unfold valueAt
  cases c.lookup key with
  | none => exact .error _
  | some text => exact .ok ⟨text, rfl⟩

theorem Vault.Payload.isText_value (data : Json) (field path : String) :
    IfOk IsText (value data field path) := by
  unfold value
  split
  · next text _ => exact .ok ⟨text, rfl⟩
  · exact .error _
  · exact .error _

theorem Store.isText_fetch [Libraries] (store : Store (StateM Scene)) (location : String)
    (s : Scene) :
    IfOk IsText ((store.fetch location).run s).1.1 := by
  cases store with
  | vault session =>
    exact (IfOk.any _).bind fun data _ => Vault.Payload.isText_value data _ location
  | environment => exact Environment.isText_valueOf location _
  | jsonFile file =>
    exact (IfOk.any _).bind fun contents _ => SecretsFile.isText_valueAt _ location contents

namespace Resolver

section

variable {kind : StoreKind} {id : String} {bytes : ByteArray} {found : Except Failure ByteArray}

theorem exists_textOf_of_isText (kind : StoreKind) (id : String) (isText : IsText bytes) :
    ∃ text, bytes = text.toUTF8 ∧ textOf kind id bytes = .ok text := by
  obtain ⟨text, rfl⟩ := isText
  exact ⟨text, rfl, textOf_toUTF8 kind id text⟩

theorem bind_textOf_eq_ok_iff (isText : IfOk IsText found) {text : String} :
    found.bind (textOf kind id) = .ok text ↔ found = .ok text.toUTF8 := by
  constructor
  · intro read
    cases found with
    | error failure => cases read
    | ok bytes =>
      obtain ⟨text', rfl, read'⟩ := exists_textOf_of_isText kind id (isText bytes rfl)
      rw [Except.ok.inj (read'.symm.trans read)]
  · rintro rfl
    exact textOf_toUTF8 kind id text

theorem bind_textOf_eq_error_iff (isText : IfOk IsText found) {failure : Failure} :
    found.bind (textOf kind id) = .error failure ↔ found = .error failure := by
  cases found with
  | error failure' => simp [Except.bind]
  | ok bytes =>
    obtain ⟨text, -, read⟩ := exists_textOf_of_isText kind id (isText bytes rfl)
    have found_eq : (Except.ok bytes).bind (textOf kind id) = .ok text := read
    rw [found_eq]
    simp

end

variable [Libraries]

theorem isText_get (r : Resolver (StateM Scene)) (s : Scene) (id : String) :
    IfOk IsText ((r.get id).run s).1.1 :=
  r.store.isText_fetch _ _

theorem run_getString (r : Resolver (StateM Scene)) (s : Scene) (id : String) :
    (r.getString id).run s =
      let got := (r.get id).run s
      ((got.1.1.bind (textOf got.1.2.kind id), got.1.2), got.2) :=
  rfl

theorem text_of_get (r : Resolver (StateM Scene)) (s : Scene) (id : String) :
    let got := (r.get id).run s
    let read := (r.getString id).run s
    (∀ text, read.1.1 = .ok text ↔ got.1.1 = .ok text.toUTF8) ∧
      (∀ failure, read.1.1 = .error failure ↔ got.1.1 = .error failure) ∧
      (∀ bytes failure, got.1.1 = .ok bytes → textOf got.1.2.kind id bytes ≠ .error failure) ∧
      read.1.2 = got.1.2 ∧ read.2 = got.2 := by
  have isText := r.isText_get s id
  rw [run_getString]
  refine ⟨fun text => bind_textOf_eq_ok_iff isText, fun failure => bind_textOf_eq_error_iff isText,
    ?_, rfl, rfl⟩
  intro bytes failure found unreadable
  obtain ⟨text, -, read⟩ := exists_textOf_of_isText _ id (isText bytes found)
  cases read.symm.trans unreadable

end Resolver

end SecretResolver
