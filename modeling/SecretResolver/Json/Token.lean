import SecretResolver.Json.Number

set_option autoImplicit false

namespace SecretResolver.Json

inductive TextItem where
  | byte (b : UInt8)
  | escaped (c : Char)
  | unit (n : Nat)
  deriving DecidableEq, Repr

inductive Token where
  | openBrace
  | closeBrace
  | openBracket
  | closeBracket
  | comma
  | colon
  | null
  | bool (b : Bool)
  | number (n : Numeral)
  | text (items : List TextItem)
  deriving DecidableEq, Repr

namespace TextItem

def hexDigit? (b : UInt8) : Option Nat :=
  let c := Char.ofNat b.toNat
  if c.isDigit then some (c.toNat - '0'.toNat)
  else if 'a' ≤ c ∧ c ≤ 'f' then some (c.toNat - 'a'.toNat + 10)
  else if 'A' ≤ c ∧ c ≤ 'F' then some (c.toNat - 'A'.toNat + 10)
  else none

def hex4? (a b c d : UInt8) : Option Nat := do
  let a ← hexDigit? a
  let b ← hexDigit? b
  let c ← hexDigit? c
  let d ← hexDigit? d
  some (((a * 16 + b) * 16 + c) * 16 + d)

def escape? (b : UInt8) : Option Char :=
  match Char.ofNat b.toNat with
  | '"' => some '"'
  | '\\' => some '\\'
  | '/' => some '/'
  | 'b' => some '\x08'
  | 'f' => some '\x0c'
  | 'n' => some '\n'
  | 'r' => some '\r'
  | 't' => some '\t'
  | _ => none

def readText : List UInt8 → Option (List TextItem × List UInt8)
  | [] => none
  | 0x22 :: bs => some ([], bs)
  | 0x5C :: 0x75 :: a :: b :: c :: d :: bs => do
    let n ← hex4? a b c d
    let (items, rest) ← readText bs
    some (.unit n :: items, rest)
  | 0x5C :: b :: bs => do
    let c ← escape? b
    let (items, rest) ← readText bs
    some (.escaped c :: items, rest)
  | b :: bs =>
    if b < 0x20 then none
    else do
      let (items, rest) ← readText bs
      some (.byte b :: items, rest)

def isHighSurrogate (n : Nat) : Bool := 0xD800 ≤ n && n < 0xDC00

def isLowSurrogate (n : Nat) : Bool := 0xDC00 ≤ n && n < 0xE000

-- the bytes that are spelled. Of the surrogates only a high one before a low one spells a
-- character.
def toBytes : List TextItem → Option (List UInt8)
  | [] => some []
  | .byte b :: items => (toBytes items).map (b :: ·)
  | .escaped c :: items => (toBytes items).map (String.utf8EncodeChar c ++ ·)
  | .unit high :: .unit low :: items =>
    if isHighSurrogate high then
      if isLowSurrogate low then
        let c := Char.ofNat (0x10000 + (high - 0xD800) * 0x400 + (low - 0xDC00))
        (toBytes items).map (String.utf8EncodeChar c ++ ·)
      else none
    else if isLowSurrogate high then none
    else (toBytes (.unit low :: items)).map (String.utf8EncodeChar (Char.ofNat high) ++ ·)
  | .unit n :: items =>
    if isHighSurrogate n || isLowSurrogate n then none
    else (toBytes items).map (String.utf8EncodeChar (Char.ofNat n) ++ ·)

def string? (items : List TextItem) : Option String := do
  let bytes ← toBytes items
  String.fromUTF8? bytes.toByteArray

end TextItem

namespace Token

def isSpace (b : UInt8) : Bool :=
  b == 0x20 || b == 0x09 || b == 0x0A || b == 0x0D

def mark? (b : UInt8) : Option Token :=
  match Char.ofNat b.toNat with
  | '\x7b' => some openBrace
  | '\x7d' => some closeBrace
  | '[' => some openBracket
  | ']' => some closeBracket
  | ',' => some comma
  | ':' => some colon
  | _ => none

-- a run of these is one name or one number
def isWordByte (b : UInt8) : Bool :=
  !(isSpace b || (mark? b).isSome || b == 0x22)

def ofWord? (bytes : List UInt8) : Option Token :=
  match bytes.map fun b => Char.ofNat b.toNat with
  | ['n', 'u', 'l', 'l'] => some null
  | ['t', 'r', 'u', 'e'] => some (bool true)
  | ['f', 'a', 'l', 's', 'e'] => some (bool false)
  | cs => (Numeral.read cs).map number

theorem length_le_of_readText {bs : List UInt8} {items : List TextItem} {rest : List UInt8}
    (h : TextItem.readText bs = some (items, rest)) : rest.length ≤ bs.length := by
  fun_induction TextItem.readText bs generalizing items rest with
  | case1 => cases h
  | case2 => cases h; simp
  | case3 _ _ _ _ _ ih =>
    simp only [Option.bind_eq_bind, Option.bind_eq_some_iff, Option.some.injEq, Prod.mk.injEq] at h
    obtain ⟨_, _, ⟨_, _⟩, hr, _, rfl⟩ := h
    have := ih hr
    simp only [List.length_cons]
    omega
  | case4 _ _ _ ih =>
    simp only [Option.bind_eq_bind, Option.bind_eq_some_iff, Option.some.injEq, Prod.mk.injEq] at h
    obtain ⟨_, _, ⟨_, _⟩, hr, _, rfl⟩ := h
    have := ih hr
    simp only [List.length_cons]
    omega
  | case5 => cases h
  | case6 _ _ _ _ _ _ ih =>
    simp only [Option.bind_eq_bind, Option.bind_eq_some_iff, Option.some.injEq, Prod.mk.injEq] at h
    obtain ⟨⟨_, _⟩, hr, _, rfl⟩ := h
    have := ih hr
    simp only [List.length_cons]
    omega

def scan : List UInt8 → Option (List Token)
  | [] => some []
  | b :: bs =>
    if isSpace b then scan bs
    else
      match mark? b with
      | some token => (scan bs).map (token :: ·)
      | none =>
        if b = 0x22 then
          match _h : TextItem.readText bs with
          | some (items, rest) => (scan rest).map (.text items :: ·)
          | none => none
        else
          match ofWord? (b :: bs.takeWhile isWordByte) with
          | some token => (scan (bs.dropWhile isWordByte)).map (token :: ·)
          | none => none
termination_by bs => bs.length
decreasing_by
  · simp
  · simp
  · have := length_le_of_readText _h
    simp only [List.length_cons]
    omega
  · have := (List.dropWhile_sublist isWordByte (l := bs)).length_le
    simp only [List.length_cons]
    omega

end Token

end SecretResolver.Json
