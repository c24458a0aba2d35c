import SecretResolver.Proofs.Json.Spelling

set_option autoImplicit false

namespace SecretResolver.Json

open Text (utf8)

namespace TextItem

instance (c : Char) (n : Nat) : Decidable (IsHexDigit c n) :=
  inferInstanceAs (Decidable (_ ∨ _))

theorem isHexDigit_of_hexDigit? {b : UInt8} {n : Nat} (digit : hexDigit? b = some n) :
    b.toNat < 128 ∧ IsHexDigit (Char.ofNat b.toNat) n := by
  have value := Text.toNat_ofNat_byte b
  simp only [hexDigit?, value] at digit
  split at digit
  · next decimal =>
    cases digit
    simp only [Char.isDigit, ge_iff_le, UInt32.le_iff_toNat_le, Bool.and_eq_true,
      decide_eq_true_eq] at decimal
    change 48 ≤ (Char.ofNat b.toNat).toNat ∧ (Char.ofNat b.toNat).toNat ≤ 57 at decimal
    obtain ⟨low, high⟩ := value ▸ decimal
    refine ⟨by omega, ?_⟩
    interval_cases b.toNat <;> decide
  split at digit
  · next lower =>
    cases digit
    change 97 ≤ (Char.ofNat b.toNat).toNat ∧ (Char.ofNat b.toNat).toNat ≤ 102 at lower
    obtain ⟨low, high⟩ := value ▸ lower
    refine ⟨by omega, ?_⟩
    interval_cases b.toNat <;> decide
  split at digit
  · next upper =>
    cases digit
    change 65 ≤ (Char.ofNat b.toNat).toNat ∧ (Char.ofNat b.toNat).toNat ≤ 70 at upper
    obtain ⟨low, high⟩ := value ▸ upper
    refine ⟨by omega, ?_⟩
    interval_cases b.toNat <;> decide
  · cases digit

theorem mem_shortEscapes_of_escape? {b : UInt8} {c : Char} (escape : escape? b = some c) :
    b.toNat < 128 ∧ (Char.ofNat b.toNat, c) ∈ shortEscapes := by
  rw [← Text.toNat_ofNat_byte b]
  unfold escape? at escape
  split at escape
  case h_9 => cases escape
  all_goals
    cases escape
    next same =>
    rw [same]
    decide

theorem lt_of_hex4 {digits : List Char} {n : Nat} (hex : Hex4 digits n) : n < 0x10000 := by
  cases hex with
  | digits first second third fourth =>
    have := first.lt
    have := second.lt
    have := third.lt
    have := fourth.lt
    omega

inductive Itemised : List Char → List TextItem → Prop where
  | nil : Itemised [] []
  | plain {c : Char} {rest : List Char} {items : List TextItem} (printable : 0x20 ≤ c.toNat)
      (unquoted : c ≠ '"') (unescaped : c ≠ '\\') (more : Itemised rest items) :
      Itemised (c :: rest) ((String.utf8EncodeChar c).map .byte ++ items)
  | short {name c : Char} {rest : List Char} {items : List TextItem}
      (escape : (name, c) ∈ shortEscapes) (more : Itemised rest items) :
      Itemised ('\\' :: name :: rest) (.escaped c :: items)
  | unit {digits rest : List Char} {n : Nat} {items : List TextItem} (hex : Hex4 digits n)
      (more : Itemised rest items) :
      Itemised ('\\' :: 'u' :: digits ++ rest) (.unit n :: items)

theorem hex4_of_hex4? {a b c d : UInt8} {n : Nat} (digits : hex4? a b c d = some n) :
    (∀ digit ∈ [a, b, c, d], digit.toNat < 128) ∧
      Hex4 ([a, b, c, d].map fun digit => Char.ofNat digit.toNat) n := by
  simp only [hex4?, Option.bind_eq_bind, Option.bind_eq_some_iff, Option.some.injEq] at digits
  obtain ⟨i, first, j, second, k, third, l, fourth, rfl⟩ := digits
  obtain ⟨asciiFirst, first⟩ := isHexDigit_of_hexDigit? first
  obtain ⟨asciiSecond, second⟩ := isHexDigit_of_hexDigit? second
  obtain ⟨asciiThird, third⟩ := isHexDigit_of_hexDigit? third
  obtain ⟨asciiFourth, fourth⟩ := isHexDigit_of_hexDigit? fourth
  refine ⟨?_, .digits first second third fourth⟩
  simp [asciiFirst, asciiSecond, asciiThird, asciiFourth]

theorem readText_slash {bytes rest : List UInt8} {items : List TextItem}
    (read : readText (0x5C :: bytes) = some (items, rest)) :
    (∃ a b c d more n others, bytes = [0x75, a, b, c, d] ++ more ∧ hex4? a b c d = some n ∧
      readText more = some (others, rest) ∧ items = .unit n :: others) ∨
    ∃ b more c others, bytes = b :: more ∧ escape? b = some c ∧
      readText more = some (others, rest) ∧ items = .escaped c :: others := by
  unfold readText at read
  split at read
  case h_1 => cases read
  case h_2 same => simp at same
  case h_3 same =>
    cases same
    simp only [Option.bind_eq_bind, Option.bind_eq_some_iff] at read
    obtain ⟨n, hex, ⟨others, rest⟩, more, ⟨⟩⟩ := read
    exact .inl ⟨_, _, _, _, _, n, others, rfl, hex, more, rfl⟩
  case h_4 same =>
    cases same
    simp only [Option.bind_eq_bind, Option.bind_eq_some_iff] at read
    obtain ⟨c, escape, ⟨others, rest⟩, more, ⟨⟩⟩ := read
    exact .inr ⟨_, _, c, others, rfl, escape, more, rfl⟩
  case h_5 unescaped same =>
    cases same
    cases bytes with
    | nil => simp [readText] at read
    | cons b bytes => exact absurd rfl (unescaped b bytes rfl)

theorem readText_unprintable {b : UInt8} (control : b < 0x20) (bytes : List UInt8) :
    readText (b :: bytes) = none := by
  unfold readText
  split <;> simp_all

theorem exists_itemised {cs : List Char} {items : List TextItem} {rest : List UInt8}
    (read : readText (utf8 cs) = some (items, rest)) : ∃ written after,
      cs = written ++ '"' :: after ∧ rest = utf8 after ∧ Itemised written items := by
  -- an escape takes several characters at once, so the induction is on their number
  induction length : cs.length using Nat.strong_induction_on generalizing cs items with
  | _ n ih =>
  subst length
  cases cs with
  | nil => simp [readText] at read
  | cons c cs =>
    by_cases quote : c = '"'
    · subst quote
      cases read
      exact ⟨[], cs, rfl, rfl, .nil⟩
    by_cases slash : c = '\\'
    · subst slash
      rcases readText_slash read with ⟨a, b, c, d, more, n, others, bytes_eq, hex, read, rfl⟩ |
        ⟨b, more, c, others, bytes_eq, escape, read, rfl⟩
      · obtain ⟨ascii, hex⟩ := hex4_of_hex4? hex
        have asciiAll : ∀ digit ∈ [0x75, a, b, c, d], digit.toNat < 128 :=
          List.forall_mem_cons.2 ⟨by decide, ascii⟩
        obtain ⟨inside, rfl, rfl⟩ := Text.exists_of_utf8_eq_append bytes_eq asciiAll
        obtain ⟨written, after, rfl, rfl, itemised⟩ := ih inside.length (by grind) read rfl
        exact ⟨_, after, by simp, rfl, .unit hex itemised⟩
      · obtain ⟨ascii, escape⟩ := mem_shortEscapes_of_escape? escape
        obtain ⟨inside, rfl, rfl⟩ := Text.exists_of_utf8_eq_cons bytes_eq ascii
        obtain ⟨written, after, rfl, rfl, itemised⟩ := ih inside.length (by grind) read rfl
        exact ⟨_, after, rfl, rfl, .short escape itemised⟩
    by_cases printable : 0x20 ≤ c.toNat
    · have plain := (readAs_plain printable quote slash).readText_append (utf8 cs)
      rw [Text.utf8_cons, Text.utf8_nil, List.append_nil] at plain
      rw [Text.utf8_cons, plain] at read
      obtain ⟨⟨others, rest⟩, more, ⟨⟩⟩ := Option.map_eq_some_iff.1 read
      obtain ⟨written, after, rfl, rfl, itemised⟩ := ih cs.length (by simp) more rfl
      exact ⟨_, after, rfl, rfl, .plain printable quote slash itemised⟩
    · have control : UInt8.ofNat c.toNat < 0x20 := by
        rw [UInt8.lt_iff_toNat_lt]
        simp
        omega
      rw [Text.utf8_cons, Text.utf8EncodeChar_ascii (by omega), List.singleton_append,
        readText_unprintable control] at read
      cases read

theorem toNat_ofNat {n : Nat} (valid : n < 0xD800 ∨ 0xE000 ≤ n) (inRange : n < 0x110000) :
    (Char.ofNat n).toNat = n := by
  have valid : n.isValidChar := by
    unfold Nat.isValidChar
    omega
  rw [Char.ofNat, dif_pos valid]
  rfl

theorem toBytes_unit_cases {n : Nat} {items : List TextItem} {bytes : List UInt8}
    (inRange : n < 0x10000) (spelled : toBytes (.unit n :: items) = some bytes) :
    ∃ c others, bytes = String.utf8EncodeChar c ++ others ∧
      (c.toNat = n ∧ toBytes items = some others ∨
        ∃ low more, items = .unit low :: more ∧ (0xD800 ≤ n ∧ n < 0xDC00) ∧
          (0xDC00 ≤ low ∧ low < 0xE000) ∧
          c.toNat = 0x10000 + (n - 0xD800) * 0x400 + (low - 0xDC00) ∧
          toBytes more = some others) := by
  have high : isHighSurrogate n = true ↔ 0xD800 ≤ n ∧ n < 0xDC00 := by simp [isHighSurrogate]
  have low : isLowSurrogate n = true ↔ 0xDC00 ≤ n ∧ n < 0xE000 := by simp [isLowSurrogate]
  have alone (notHigh : ¬ isHighSurrogate n = true)
      (notLow : ¬ isLowSurrogate n = true) : (Char.ofNat n).toNat = n := by
    rw [high] at notHigh
    rw [low] at notLow
    exact toNat_ofNat (by omega) (by omega)
  unfold toBytes at spelled
  split at spelled
  case h_1 same => cases same
  case h_2 same => cases same
  case h_3 same => cases same
  case h_4 same =>
    cases same
    split at spelled
    · next isHigh =>
      split at spelled
      · next isLow =>
        obtain ⟨others, more, rfl⟩ := Option.map_eq_some_iff.1 spelled
        simp only [isLowSurrogate, Bool.and_eq_true, decide_eq_true_eq] at isLow
        have isHigh := high.1 isHigh
        refine ⟨_, others, rfl, .inr ⟨_, _, rfl, isHigh, isLow, ?_, more⟩⟩
        exact toNat_ofNat (by omega) (by omega)
      · cases spelled
    · next notHigh =>
      split at spelled
      · cases spelled
      · next notLow =>
        obtain ⟨others, more, rfl⟩ := Option.map_eq_some_iff.1 spelled
        exact ⟨_, others, rfl, .inl ⟨alone notHigh notLow, more⟩⟩
  case h_5 same =>
    cases same
    split at spelled
    · cases spelled
    · next neither =>
      obtain ⟨others, more, rfl⟩ := Option.map_eq_some_iff.1 spelled
      rw [Bool.or_eq_true, not_or] at neither
      exact ⟨_, others, rfl, .inl ⟨alone neither.1 neither.2, more⟩⟩

theorem Itemised.of_unit {written : List Char} {n : Nat} {items : List TextItem}
    (itemised : Itemised written (.unit n :: items)) : ∃ digits rest,
      written = '\\' :: 'u' :: digits ++ rest ∧ Hex4 digits n ∧ Itemised rest items := by
  generalize same : TextItem.unit n :: items = all at itemised
  cases itemised with
  | nil => cases same
  | @plain c =>
    obtain ⟨b, bytes, encoded⟩ :=
      List.exists_cons_of_ne_nil (String.utf8EncodeChar_ne_nil (c := c))
    rw [encoded] at same
    cases same
  | short => cases same
  | unit hex more =>
    cases same
    exact ⟨_, _, rfl, hex, more⟩

theorem exists_spellsText {written : List Char} {items : List TextItem} {bytes : List UInt8}
    (itemised : Itemised written items) (spelled : toBytes items = some bytes) :
    ∃ text, bytes = utf8 text ∧ SpellsText written text := by
  -- a pair of surrogates is two items
  induction length : written.length using Nat.strong_induction_on
    generalizing written items bytes with
  | _ n ih =>
  subst length
  cases itemised with
  | nil =>
    cases spelled
    exact ⟨[], rfl, .nil⟩
  | @plain c rest items printable unquoted unescaped more =>
    rw [toBytes_bytes] at spelled
    obtain ⟨others, others_spelled, rfl⟩ := Option.map_eq_some_iff.1 spelled
    obtain ⟨text, rfl, spells⟩ := ih rest.length (by simp) more others_spelled rfl
    exact ⟨c :: text, rfl, .cons (.plain printable unquoted unescaped) spells⟩
  | @short name c rest items escape more =>
    obtain ⟨others, others_spelled, rfl⟩ := Option.map_eq_some_iff.1 spelled
    obtain ⟨text, rfl, spells⟩ := ih rest.length (by grind) more others_spelled rfl
    exact ⟨c :: text, rfl, .cons (.short escape) spells⟩
  | @unit digits rest n items hex more =>
    obtain ⟨c, others, rfl, whole | halves⟩ := toBytes_unit_cases (lt_of_hex4 hex) spelled
    · obtain ⟨rfl, others_spelled⟩ := whole
      obtain ⟨text, rfl, spells⟩ := ih rest.length (by grind) more others_spelled rfl
      exact ⟨c :: text, rfl, .cons (.unit hex) spells⟩
    · obtain ⟨low, items, rfl, isHigh, isLow, value_eq, others_spelled⟩ := halves
      obtain ⟨lows, rest, rfl, lowHex, more⟩ := more.of_unit
      obtain ⟨text, rfl, spells⟩ := ih rest.length (by grind) more others_spelled rfl
      have pair := SpellsText.cons (.pair hex lowHex isHigh isLow value_eq) spells
      exact ⟨c :: text, rfl, by simpa using pair⟩

theorem spellsText_of_string? {written : List Char} {items : List TextItem} {text : String}
    (itemised : Itemised written items) (means : string? items = some text) :
    SpellsText written text.toList := by
  obtain ⟨bytes, spelled, decoded⟩ := Option.bind_eq_some_iff.1 means
  obtain ⟨chars, rfl, spells⟩ := exists_spellsText itemised spelled
  have same : text = String.ofList chars :=
    String.toByteArray_inj.1
      ((toUTF8_of_fromUTF8? decoded).trans (Text.toByteArray_utf8 chars))
  rwa [same, String.toList_ofList]

end TextItem

end SecretResolver.Json
