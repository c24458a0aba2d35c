import SecretResolver.Toml.Moment
import SecretResolver.Toml.Quoted

set_option autoImplicit false

namespace SecretResolver.Toml

inductive Token where
  | blank
  | lineBreak
  | equals
  | comma
  | openBracket
  | closeBracket
  | openBrace
  | closeBrace
  | word (cs : List Char)
  | line (cs : List Char)
  | lines (cs : List Char)
  deriving DecidableEq, Repr

namespace Token

def mark? : Char → Option Token
  | ' ' => some blank
  | '\t' => some blank
  | '\n' => some lineBreak
  | '=' => some equals
  | ',' => some comma
  | '[' => some openBracket
  | ']' => some closeBracket
  | '\x7b' => some openBrace
  | '\x7d' => some closeBrace
  | _ => none

def isQuote (c : Char) : Bool :=
  c == '"' || c == '\''

def isWordChar (c : Char) : Bool :=
  !((mark? c).isSome || isQuote c || c == '#' || c == '\r')

def isWithinLine (c : Char) : Bool :=
  c != '\n' && c != '\r'

-- a date and a time of day are one word, though a space may stand between them
def takeWord (cs : List Char) : List Char × List Char :=
  let first := cs.takeWhile isWordChar
  match cs.dropWhile isWordChar with
  | ' ' :: c :: rest =>
    if Moment.hasDateShape first ∧ (Moment.digit? c).isSome then
      (first ++ ' ' :: c :: rest.takeWhile isWordChar, rest.dropWhile isWordChar)
    else (first, ' ' :: c :: rest)
  | rest => (first, rest)

theorem length_takeWord {c : Char} (cs : List Char) (h : isWordChar c) :
    (takeWord (c :: cs)).2.length < (c :: cs).length := by
  have hd := (List.dropWhile_sublist isWordChar (l := cs)).length_le
  simp only [takeWord, List.dropWhile_cons_of_pos h]
  split
  · next rest hr =>
    rw [hr] at hd
    have := (List.dropWhile_sublist isWordChar (l := rest)).length_le
    split <;> simp only [List.length_cons] at hd ⊢ <;> omega
  · simp only [List.length_cons]
    omega

def takeText (quote : Char) (cs : List Char) : Option (Token × List Char) :=
  let escapes := quote == '"'
  if [quote, quote].isPrefixOf cs then do
    let (raw, rest) ← Quoted.takeLines quote escapes (cs.drop 2)
    some (lines (← Quoted.ofLines? escapes raw), rest)
  else do
    let (raw, rest) ← Quoted.takeLine quote escapes cs
    some (line (← Quoted.ofLine? escapes raw), rest)

theorem length_takeText {quote : Char} {cs rest : List Char} {token : Token}
    (h : takeText quote cs = some (token, rest)) : rest.length ≤ cs.length := by
  unfold takeText at h
  simp only [Option.bind_eq_bind] at h
  split at h
  · obtain ⟨⟨_, _⟩, hr, h⟩ := Option.bind_eq_some_iff.1 h
    obtain ⟨_, _, h⟩ := Option.bind_eq_some_iff.1 h
    cases h
    have := Quoted.length_takeLines hr
    simp only [List.length_drop] at this ⊢
    omega
  · obtain ⟨⟨_, _⟩, hr, h⟩ := Option.bind_eq_some_iff.1 h
    obtain ⟨_, _, h⟩ := Option.bind_eq_some_iff.1 h
    cases h
    exact Quoted.length_takeLine hr

-- splits a document into tokens and leaves comments out. A line ends in a line feed, alone or after
-- a carriage return; a carriage return alone may stand nowhere.
def scan : List Char → Option (List Token)
  | [] => some []
  | '\r' :: '\n' :: cs => (scan cs).map (lineBreak :: ·)
  | c :: cs =>
    match mark? c with
    | some token => (scan cs).map (token :: ·)
    | none =>
      if c = '#' then
        if (cs.takeWhile isWithinLine).all Quoted.isPlain then scan (cs.dropWhile isWithinLine)
        else none
      else if isQuote c then
        match _h : takeText c cs with
        | some (token, rest) => (scan rest).map (token :: ·)
        | none => none
      else if _h : isWordChar c then
        (scan (takeWord (c :: cs)).2).map (word (takeWord (c :: cs)).1 :: ·)
      else none
termination_by cs => cs.length
decreasing_by
  · simp only [List.length_cons]
    omega
  · simp
  · have := (List.dropWhile_sublist isWithinLine (l := cs)).length_le
    simp only [List.length_cons]
    omega
  · have := length_takeText _h
    simp only [List.length_cons]
    omega
  · exact length_takeWord cs _h

end Token

end SecretResolver.Toml
