set_option autoImplicit false

namespace SecretResolver

theorem fromUTF8?_toUTF8 (text : String) : String.fromUTF8? text.toUTF8 = some text :=
  dif_pos text.isValidUTF8

theorem toUTF8_of_fromUTF8? {bytes : ByteArray} {text : String}
    (read : String.fromUTF8? bytes = some text) : text.toUTF8 = bytes := by
  unfold String.fromUTF8? at read
  split at read
  · cases read
    rfl
  · cases read

namespace Text

def utf8 (cs : List Char) : List UInt8 :=
  cs.flatMap String.utf8EncodeChar

@[simp] theorem utf8_nil : utf8 [] = [] :=
  rfl

@[simp] theorem utf8_cons (c : Char) (cs : List Char) :
    utf8 (c :: cs) = String.utf8EncodeChar c ++ utf8 cs :=
  rfl

@[simp] theorem utf8_append (cs ds : List Char) : utf8 (cs ++ ds) = utf8 cs ++ utf8 ds :=
  List.flatMap_append

theorem toByteArray_utf8 (cs : List Char) : (utf8 cs).toByteArray = (String.ofList cs).toUTF8 :=
  String.toByteArray_ofList.symm

theorem toList_toUTF8 (text : String) : text.toUTF8.data.toList = utf8 text.toList := by
  have bytes_eq : (utf8 text.toList).toByteArray = text.toUTF8 := by
    rw [toByteArray_utf8, String.ofList_toList]
  rw [← bytes_eq, List.data_toByteArray]

theorem utf8EncodeChar_ascii {c : Char} (ascii : c.toNat < 128) :
    String.utf8EncodeChar c = [UInt8.ofNat c.toNat] := by
  have within : c.val.toNat ≤ 127 := Nat.le_of_lt_succ ascii
  simp only [String.utf8EncodeChar, if_pos within, Char.toNat]

-- a character of several bytes has none of ASCII among them
theorem le_of_mem_utf8EncodeChar {c : Char} {b : UInt8} (beyond : 128 ≤ c.toNat)
    (mem : b ∈ String.utf8EncodeChar c) : 128 ≤ b.toNat := by
  have beyond : ¬ c.val.toNat ≤ 127 := Nat.not_le_of_lt beyond
  simp only [String.utf8EncodeChar, if_neg beyond] at mem
  split at mem
  · simp only [List.mem_cons, List.not_mem_nil, or_false] at mem
    rcases mem with rfl | rfl <;> simp <;> omega
  · split at mem <;> simp only [List.mem_cons, List.not_mem_nil, or_false] at mem
    · rcases mem with rfl | rfl | rfl <;> simp <;> omega
    · rcases mem with rfl | rfl | rfl | rfl <;> simp <;> omega

theorem toNat_ofNat_byte (b : UInt8) : (Char.ofNat b.toNat).toNat = b.toNat := by
  have small : b.toNat < 256 := b.toNat_lt
  have valid : b.toNat.isValidChar := .inl (by omega)
  rw [Char.ofNat, dif_pos valid]
  rfl

theorem exists_of_utf8_eq_cons {cs : List Char} {b : UInt8} {bytes : List UInt8}
    (same : utf8 cs = b :: bytes) (ascii : b.toNat < 128) :
    ∃ rest, cs = Char.ofNat b.toNat :: rest ∧ bytes = utf8 rest := by
  cases cs with
  | nil => cases same
  | cons c rest =>
    by_cases asciiChar : c.toNat < 128
    · rw [utf8_cons, utf8EncodeChar_ascii asciiChar] at same
      cases same
      have value : (UInt8.ofNat c.toNat).toNat = c.toNat := by
        simp
        omega
      exact ⟨rest, by rw [value, Char.ofNat_toNat], rfl⟩
    · obtain ⟨first, more, encoded⟩ :=
        List.exists_cons_of_ne_nil (String.utf8EncodeChar_ne_nil (c := c))
      rw [utf8_cons, encoded] at same
      cases same
      have beyond := le_of_mem_utf8EncodeChar (Nat.le_of_not_lt asciiChar)
        (encoded ▸ List.mem_cons_self)
      omega

theorem exists_of_utf8_eq_append {cs : List Char} {bytes more : List UInt8}
    (same : utf8 cs = bytes ++ more) (ascii : ∀ b ∈ bytes, b.toNat < 128) :
    ∃ rest, cs = (bytes.map fun b => Char.ofNat b.toNat) ++ rest ∧ more = utf8 rest := by
  induction bytes generalizing cs with
  | nil => exact ⟨cs, rfl, same.symm⟩
  | cons b bytes ih =>
    obtain ⟨others, rfl, others_eq⟩ := exists_of_utf8_eq_cons same (ascii b List.mem_cons_self)
    obtain ⟨rest, rfl, more_eq⟩ :=
      ih others_eq.symm fun b mem => ascii b (List.mem_cons_of_mem _ mem)
    exact ⟨rest, rfl, more_eq⟩

theorem eq_of_utf8EncodeChar_append {c d : Char} {bytes bytes' : List UInt8}
    (same : String.utf8EncodeChar c ++ bytes = String.utf8EncodeChar d ++ bytes') :
    c = d ∧ bytes = bytes' := by
  have decoded (c : Char) (bytes : List UInt8) :
      (String.utf8EncodeChar c ++ bytes).toByteArray.utf8DecodeChar? 0 = some c := by
    rw [List.toByteArray_append]
    exact ByteArray.utf8DecodeChar?_utf8EncodeChar_append
  have char_eq : c = d := by
    rw [← Option.some_inj, ← decoded c bytes, same, decoded]
  subst char_eq
  exact ⟨rfl, List.append_cancel_left same⟩

theorem utf8_prefix_iff {cs ds : List Char} : utf8 cs <+: utf8 ds ↔ cs <+: ds := by
  constructor
  · rintro ⟨more, same⟩
    induction cs generalizing ds with
    | nil => exact List.nil_prefix
    | cons c cs ih =>
      cases ds with
      | nil => simp [String.utf8EncodeChar_ne_nil] at same
      | cons d ds =>
        rw [utf8_cons, utf8_cons, List.append_assoc] at same
        obtain ⟨rfl, rest⟩ := eq_of_utf8EncodeChar_append same
        exact List.cons_prefix_cons.2 ⟨rfl, ih rest⟩
  · rintro ⟨more, rfl⟩
    exact ⟨utf8 more, (utf8_append cs more).symm⟩

end Text

end SecretResolver
