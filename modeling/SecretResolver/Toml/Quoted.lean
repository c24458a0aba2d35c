import SecretResolver.Toml.Number

set_option autoImplicit false

-- Quoted texts: in single quotes as they are, in double quotes with escapes, in three quotes over
-- many lines.

namespace SecretResolver.Toml.Quoted

def takeLine (quote : Char) (escapes : Bool) : List Char → Option (List Char × List Char)
  | [] => none
  | [c] => if c = quote then some ([], []) else none
  | c :: d :: cs =>
    if c = quote then some ([], d :: cs)
    else if escapes ∧ c = '\\' then
      (takeLine quote escapes cs).map fun (raw, rest) => (c :: d :: raw, rest)
    else (takeLine quote escapes (d :: cs)).map fun (raw, rest) => (c :: raw, rest)

-- the raw text up to three quotes. Up to two quotes before them belong to the text.
def takeLines (quote : Char) (escapes : Bool) : List Char → Option (List Char × List Char)
  | [] => none
  | c :: cs =>
    if [quote, quote, quote].isPrefixOf (c :: cs) then
      let extra := ((cs.drop 2).take 2).takeWhile (· == quote)
      some (extra, cs.drop (2 + extra.length))
    else
      match cs with
      | [] => none
      | d :: ds =>
        if escapes ∧ c = '\\' then
          (takeLines quote escapes ds).map fun (raw, rest) => (c :: d :: raw, rest)
        else (takeLines quote escapes (d :: ds)).map fun (raw, rest) => (c :: raw, rest)

theorem length_takeLine {quote : Char} {escapes : Bool} {cs raw rest : List Char}
    (h : takeLine quote escapes cs = some (raw, rest)) : rest.length ≤ cs.length := by
  fun_induction takeLine quote escapes cs generalizing raw rest with
  | case1 => cases h
  | case2 => cases h; simp
  | case3 => cases h
  | case4 => cases h; simp
  | case5 c d cs _ _ ih =>
    obtain ⟨⟨_, _⟩, hr, he⟩ := Option.map_eq_some_iff.1 h
    cases he
    have := ih hr
    simp only [List.length_cons]
    omega
  | case6 c d cs _ _ ih =>
    obtain ⟨⟨_, _⟩, hr, he⟩ := Option.map_eq_some_iff.1 h
    cases he
    have := ih hr
    simp only [List.length_cons] at this ⊢
    omega

theorem length_takeLines {quote : Char} {escapes : Bool} {cs raw rest : List Char}
    (h : takeLines quote escapes cs = some (raw, rest)) : rest.length ≤ cs.length := by
  fun_induction takeLines quote escapes cs generalizing raw rest with
  | case1 => cases h
  | case2 => cases h; simp only [List.length_drop, List.length_cons]; omega
  | case3 => cases h
  | case4 c d ds _ _ ih =>
    obtain ⟨⟨_, _⟩, hr, he⟩ := Option.map_eq_some_iff.1 h
    cases he
    have := ih hr
    simp only [List.length_cons]
    omega
  | case5 c d ds _ _ ih =>
    obtain ⟨⟨_, _⟩, hr, he⟩ := Option.map_eq_some_iff.1 h
    cases he
    have := ih hr
    simp only [List.length_cons] at this ⊢
    omega

def isBlank (c : Char) : Bool :=
  c == ' ' || c == '\t'

def isPlain (c : Char) : Bool :=
  c == '\t' || (' ' ≤ c && c ≠ '\x7f')

def afterBreak? : List Char → Option (List Char)
  | '\n' :: cs => some cs
  | '\r' :: '\n' :: cs => some cs
  | _ => none

def areLines : List Char → Bool
  | [] => true
  | '\r' :: '\n' :: cs => areLines cs
  | c :: cs => (c == '\n' || isPlain c) && areLines cs

def isBlankOrBreak (c : Char) : Bool :=
  isBlank c || c == '\n' || c == '\r'

def joinLines : List Char → List Char
  | [] => []
  | '\\' :: cs =>
    if (afterBreak? (cs.dropWhile isBlank)).isSome then joinLines (cs.dropWhile isBlankOrBreak)
    else
      match cs with
      | [] => ['\\']
      | c :: cs => '\\' :: c :: joinLines cs
  | c :: cs => c :: joinLines cs
termination_by cs => cs.length
decreasing_by
  · have := (List.dropWhile_sublist isBlankOrBreak (l := cs)).length_le
    simp only [List.length_cons]
    omega
  · simp only [List.length_cons]
    omega
  · simp

def scalar? (n : Nat) : Option Char :=
  if n < 0xD800 ∨ (0xDFFF < n ∧ n < 0x110000) then some (Char.ofNat n) else none

def hex? (cs : List Char) : Option Char := do
  let ds ← cs.mapM (Number.digit? 16)
  scalar? (Number.ofDigits 16 ds)

def escape? : Char → Option Char
  | 'b' => some '\x08'
  | 't' => some '\t'
  | 'n' => some '\n'
  | 'f' => some '\x0c'
  | 'r' => some '\r'
  | 'e' => some '\x1b'
  | '"' => some '"'
  | '\\' => some '\\'
  | _ => none

def unescape : List Char → Option (List Char)
  | [] => some []
  | '\\' :: 'x' :: a :: b :: cs => do
    let c ← hex? [a, b]
    (unescape cs).map (c :: ·)
  | '\\' :: 'u' :: a :: b :: c :: d :: cs => do
    let c ← hex? [a, b, c, d]
    (unescape cs).map (c :: ·)
  | '\\' :: 'U' :: a :: b :: c :: d :: e :: f :: g :: h :: cs => do
    let c ← hex? [a, b, c, d, e, f, g, h]
    (unescape cs).map (c :: ·)
  | '\\' :: c :: cs => do
    let c ← escape? c
    (unescape cs).map (c :: ·)
  | c :: cs => if c = '\\' then none else (unescape cs).map (c :: ·)

def ofLine? (escapes : Bool) (raw : List Char) : Option (List Char) :=
  if raw.all isPlain then (if escapes then unescape raw else some raw) else none

-- a line break right after the opening quotes does not belong to the text
def ofLines? (escapes : Bool) (raw : List Char) : Option (List Char) :=
  let lines := (afterBreak? raw).getD raw
  if areLines lines then (if escapes then unescape (joinLines lines) else some lines) else none

end SecretResolver.Toml.Quoted
