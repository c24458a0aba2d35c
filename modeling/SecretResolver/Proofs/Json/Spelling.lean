import Mathlib.Tactic.IntervalCases
import SecretResolver.Json.Token
import SecretResolver.Proofs.Text.Encoding

set_option autoImplicit false

namespace SecretResolver.Json

open Text (utf8)

-- a digit of either case
def IsHexDigit (c : Char) (n : Nat) : Prop :=
  "0123456789abcdef".toList[n]? = some c ∨ "0123456789ABCDEF".toList[n]? = some c

theorem IsHexDigit.lt {c : Char} {n : Nat} (digit : IsHexDigit c n) : n < 16 := by
  rcases digit with digit | digit <;> exact (List.getElem?_eq_some_iff.1 digit).1

inductive Hex4 : List Char → Nat → Prop where
  | digits {a b c d : Char} {i j k l : Nat} (first : IsHexDigit a i) (second : IsHexDigit b j)
      (third : IsHexDigit c k) (fourth : IsHexDigit d l) :
      Hex4 [a, b, c, d] (((i * 16 + j) * 16 + k) * 16 + l)

def shortEscapes : List (Char × Char) :=
  [('"', '"'), ('\\', '\\'), ('/', '/'), ('b', '\x08'), ('f', '\x0c'), ('n', '\n'), ('r', '\r'),
    ('t', '\t')]

inductive Spells : List Char → Char → Prop where
  | plain {c : Char} (printable : 0x20 ≤ c.toNat) (unquoted : c ≠ '"') (unescaped : c ≠ '\\') :
      Spells [c] c
  | short {name c : Char} (escape : (name, c) ∈ shortEscapes) : Spells ['\\', name] c
  | unit {digits : List Char} {c : Char} (hex : Hex4 digits c.toNat) :
      Spells ('\\' :: 'u' :: digits) c
  | pair {highs lows : List Char} {high low : Nat} {c : Char} (highHex : Hex4 highs high)
      (lowHex : Hex4 lows low) (isHigh : 0xD800 ≤ high ∧ high < 0xDC00)
      (isLow : 0xDC00 ≤ low ∧ low < 0xE000)
      (value_eq : c.toNat = 0x10000 + (high - 0xD800) * 0x400 + (low - 0xDC00)) :
      Spells ('\\' :: 'u' :: highs ++ '\\' :: 'u' :: lows) c

inductive SpellsText : List Char → List Char → Prop where
  | nil : SpellsText [] []
  | cons {first rest : List Char} {c : Char} {cs : List Char} (spells : Spells first c)
      (more : SpellsText rest cs) : SpellsText (first ++ rest) (c :: cs)

namespace TextItem

structure ReadAs (written : List Char) (items : List TextItem) (bytes : List UInt8) : Prop where
  readText_append : ∀ rest, readText (utf8 written ++ rest) =
    (readText rest).map fun (more, rest) => (items ++ more, rest)
  toBytes_append : ∀ more, toBytes (items ++ more) = (toBytes more).map (bytes ++ ·)

theorem ReadAs.nil : ReadAs [] [] [] := by
  constructor <;> simp

theorem ReadAs.append {first rest : List Char} {items more : List TextItem}
    {bytes others : List UInt8} (one : ReadAs first items bytes) (two : ReadAs rest more others) :
    ReadAs (first ++ rest) (items ++ more) (bytes ++ others) := by
  constructor
  · intro after
    rw [Text.utf8_append, List.append_assoc, one.readText_append, two.readText_append,
      Option.map_map]
    simp [Function.comp_def]
  · intro after
    rw [List.append_assoc, one.toBytes_append, two.toBytes_append, Option.map_map]
    simp [Function.comp_def]

theorem isHexDigit_cases {c : Char} {n : Nat} (digit : IsHexDigit c n) :
    c.toNat < 128 ∧ hexDigit? (UInt8.ofNat c.toNat) = some n := by
  have within := digit.lt
  unfold IsHexDigit at digit
  interval_cases n <;> rcases digit with digit | digit <;> cases digit <;> decide

theorem readText_hex4 {digits : List Char} {n : Nat} (hex : Hex4 digits n) (rest : List UInt8) :
    readText (utf8 ('\\' :: 'u' :: digits) ++ rest) =
      (readText rest).map fun (more, rest) => (.unit n :: more, rest) := by
  cases hex with
  | digits first second third fourth =>
    obtain ⟨asciiFirst, first⟩ := isHexDigit_cases first
    obtain ⟨asciiSecond, second⟩ := isHexDigit_cases second
    obtain ⟨asciiThird, third⟩ := isHexDigit_cases third
    obtain ⟨asciiFourth, fourth⟩ := isHexDigit_cases fourth
    have slash : String.utf8EncodeChar '\\' = [0x5C] := rfl
    have u : String.utf8EncodeChar 'u' = [0x75] := rfl
    simp only [Text.utf8_cons, Text.utf8_nil, slash, u, Text.utf8EncodeChar_ascii, asciiFirst,
      asciiSecond, asciiThird, asciiFourth, List.cons_append, List.nil_append]
    rw [readText]
    simp [hex4?, first, second, third, fourth, Option.map_eq_bind]

theorem readText_bytes {bytes : List UInt8}
    (plain : ∀ b ∈ bytes, 0x20 ≤ b ∧ b ≠ 0x22 ∧ b ≠ 0x5C) (rest : List UInt8) :
    readText (bytes ++ rest) =
      (readText rest).map fun (more, rest) => (bytes.map .byte ++ more, rest) := by
  induction bytes with
  | nil => simp
  | cons b bytes ih =>
    obtain ⟨printable, unquoted, unescaped⟩ := plain b List.mem_cons_self
    have ih := ih fun b mem => plain b (List.mem_cons_of_mem _ mem)
    rw [List.cons_append, readText.eq_def]
    cases read : readText rest <;>
      simp [unescaped, UInt8.not_lt.2 printable, ih, read]

theorem toBytes_bytes (bytes : List UInt8) (more : List TextItem) :
    toBytes (bytes.map .byte ++ more) = (toBytes more).map (bytes ++ ·) := by
  induction bytes with
  | nil => simp
  | cons b bytes ih => simp [toBytes, ih, Function.comp_def]

theorem not_surrogate (c : Char) : c.toNat < 0xD800 ∨ 0xE000 ≤ c.toNat := by
  rcases c.valid with low | ⟨high, -⟩
  · exact .inl low
  · exact .inr high

theorem toBytes_unit (c : Char) (more : List TextItem) :
    toBytes (.unit c.toNat :: more) = (toBytes more).map (String.utf8EncodeChar c ++ ·) := by
  have notHigh : isHighSurrogate c.toNat = false := by
    have := not_surrogate c
    simp [isHighSurrogate]
    omega
  have notLow : isLowSurrogate c.toNat = false := by
    have := not_surrogate c
    simp [isLowSurrogate]
    omega
  rcases more with _ | ⟨_ | _ | _, more⟩ <;> simp [toBytes, notHigh, notLow]

theorem toBytes_pair {high low : Nat} {c : Char} (isHigh : 0xD800 ≤ high ∧ high < 0xDC00)
    (isLow : 0xDC00 ≤ low ∧ low < 0xE000)
    (value_eq : c.toNat = 0x10000 + (high - 0xD800) * 0x400 + (low - 0xDC00))
    (more : List TextItem) : toBytes (.unit high :: .unit low :: more) =
      (toBytes more).map (String.utf8EncodeChar c ++ ·) := by
  simp [toBytes, isHighSurrogate, isLowSurrogate, isHigh, isLow, ← value_eq]

theorem readAs_plain {c : Char} (printable : 0x20 ≤ c.toNat) (unquoted : c ≠ '"')
    (unescaped : c ≠ '\\') : ReadAs [c] ((String.utf8EncodeChar c).map .byte)
      (String.utf8EncodeChar c) := by
  refine ⟨fun rest => ?_, toBytes_bytes _⟩
  rw [Text.utf8_cons, Text.utf8_nil, List.append_nil]
  apply readText_bytes
  intro b mem
  have apart : 0x20 ≤ b.toNat ∧ b.toNat ≠ 0x22 ∧ b.toNat ≠ 0x5C := by
    by_cases ascii : c.toNat < 128
    · rw [Text.utf8EncodeChar_ascii ascii, List.mem_singleton] at mem
      have value : b.toNat = c.toNat := by simp [mem]; omega
      have notQuote : c.toNat ≠ 0x22 := fun same => unquoted (Char.toNat_inj.1 same)
      have notSlash : c.toNat ≠ 0x5C := fun same => unescaped (Char.toNat_inj.1 same)
      omega
    · have := Text.le_of_mem_utf8EncodeChar (Nat.le_of_not_lt ascii) mem
      omega
  refine ⟨UInt8.le_iff_toNat_le.2 apart.1, ?_, ?_⟩
  · rintro rfl
    exact apart.2.1 rfl
  · rintro rfl
    exact apart.2.2 rfl

theorem readAs_short {name c : Char} (escape : (name, c) ∈ shortEscapes) :
    ReadAs ['\\', name] [.escaped c] (String.utf8EncodeChar c) := by
  constructor
  · intro rest
    simp only [shortEscapes, List.mem_cons, Prod.mk.injEq, List.not_mem_nil, or_false] at escape
    rcases escape with ⟨rfl, rfl⟩ | ⟨rfl, rfl⟩ | ⟨rfl, rfl⟩ | ⟨rfl, rfl⟩ | ⟨rfl, rfl⟩ | ⟨rfl, rfl⟩ |
        ⟨rfl, rfl⟩ | ⟨rfl, rfl⟩ <;>
      cases read : readText rest <;> simp [readText, escape?, read, Text.utf8EncodeChar_ascii]
  · intro more
    rfl

theorem exists_readAs_spells {written : List Char} {c : Char} (spells : Spells written c) :
    ∃ items, ReadAs written items (String.utf8EncodeChar c) := by
  cases spells with
  | plain printable unquoted unescaped => exact ⟨_, readAs_plain printable unquoted unescaped⟩
  | short escape => exact ⟨_, readAs_short escape⟩
  | unit hex => exact ⟨[.unit c.toNat], readText_hex4 hex, toBytes_unit c⟩
  | @pair highs lows high low _ highHex lowHex isHigh isLow value_eq =>
    refine ⟨[.unit high, .unit low], fun rest => ?_, toBytes_pair isHigh isLow value_eq⟩
    rw [Text.utf8_append, List.append_assoc, readText_hex4 highHex, readText_hex4 lowHex,
      Option.map_map]
    rfl

theorem exists_readAs {written text : List Char} (spells : SpellsText written text) :
    ∃ items, ReadAs written items (utf8 text) := by
  induction spells with
  | nil => exact ⟨[], .nil⟩
  | cons one _ ih =>
    obtain ⟨items, first⟩ := exists_readAs_spells one
    obtain ⟨more, rest⟩ := ih
    exact ⟨items ++ more, first.append rest⟩

theorem exists_readText {written : List Char} {text : String}
    (spells : SpellsText written text.toList) : ∃ items, string? items = some text ∧
      ∀ rest, readText (utf8 written ++ 0x22 :: rest) = some (items, rest) := by
  obtain ⟨items, read⟩ := exists_readAs spells
  refine ⟨items, ?_, fun rest => ?_⟩
  · have bytes_eq := read.toBytes_append []
    rw [List.append_nil] at bytes_eq
    simpa [string?, bytes_eq, toBytes, Text.toByteArray_utf8] using fromUTF8?_toUTF8 text
  · rw [read.readText_append]
    simp [readText]

end TextItem

end SecretResolver.Json
