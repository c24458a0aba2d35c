import SecretResolver.Proofs.Json.Document
import SecretResolver.Proofs.Json.Unspelling

set_option autoImplicit false

namespace SecretResolver.Json.Token

open Text (utf8)

def marks : List (Char × Token) :=
  [('{', .openBrace), ('}', .closeBrace), ('[', .openBracket), (']', .closeBracket),
    (',', .comma), (':', .colon)]

def isWord : Token → Bool
  | .null | .bool _ | .number _ => true
  | _ => false

inductive Lexes : List Char → List Token → Prop where
  | none {cs : List Char} (blank : Blank cs) : Lexes cs []
  | mark {before rest : List Char} {c : Char} {token : Token} {tokens : List Token}
      (blank : Blank before) (mark : (c, token) ∈ marks) (more : Lexes rest tokens) :
      Lexes (before ++ c :: rest) (token :: tokens)
  | text {before written rest : List Char} {items : List TextItem} {tokens : List Token}
      (blank : Blank before) (itemised : TextItem.Itemised written items)
      (more : Lexes rest tokens) :
      Lexes (before ++ '"' :: (written ++ '"' :: rest)) (.text items :: tokens)
  | word {cs : List Char} {token : Token} {tokens : List Token} (word : token.isWord = true) :
      Lexes cs (token :: tokens)

section

variable {b : UInt8} {bytes : List UInt8} {token : Token} {tokens : List Token} {c : Char}
  {cs : List Char}

theorem isWord_of_ofWord? (read : ofWord? bytes = some token) : token.isWord = true := by
  unfold ofWord? at read
  split at read
  · cases read
    rfl
  · cases read
    rfl
  · cases read
    rfl
  · obtain ⟨n, -, rfl⟩ := Option.map_eq_some_iff.1 read
    rfl

theorem blank_of_isSpace (space : isSpace b = true) :
    b.toNat < 128 ∧ Char.ofNat b.toNat ∈ [' ', '\t', '\n', '\r'] := by
  simp only [isSpace, Bool.or_eq_true, beq_iff_eq] at space
  rcases space with ((rfl | rfl) | rfl) | rfl <;> decide

theorem mem_marks_of_mark? (mark : mark? b = some token) :
    b.toNat < 128 ∧ (Char.ofNat b.toNat, token) ∈ marks := by
  rw [← Text.toNat_ofNat_byte b]
  unfold mark? at mark
  split at mark
  case h_7 => cases mark
  all_goals
    cases mark
    next same =>
    rw [same]
    decide

theorem scan_cons_cases (scanned : scan (b :: bytes) = some tokens) :
    isSpace b = true ∧ scan bytes = some tokens ∨
      ∃ token more, tokens = token :: more ∧
        (mark? b = some token ∧ scan bytes = some more ∨
          (∃ items rest, b = 0x22 ∧ token = .text items ∧
            TextItem.readText bytes = some (items, rest) ∧ scan rest = some more) ∨
          token.isWord = true) := by
  rw [scan] at scanned
  split at scanned
  · next space => exact .inl ⟨space, scanned⟩
  right
  split at scanned
  · next token mark =>
    obtain ⟨more, more_eq, rfl⟩ := Option.map_eq_some_iff.1 scanned
    exact ⟨token, more, rfl, .inl ⟨mark, more_eq⟩⟩
  split at scanned
  · next quote =>
    split at scanned
    · next items rest read =>
      obtain ⟨more, more_eq, rfl⟩ := Option.map_eq_some_iff.1 scanned
      exact ⟨.text items, more, rfl, .inr (.inl ⟨items, rest, quote, rfl, read, more_eq⟩)⟩
    · cases scanned
  · split at scanned
    · next token read =>
      obtain ⟨more, -, rfl⟩ := Option.map_eq_some_iff.1 scanned
      exact ⟨token, more, rfl, .inr (.inr (isWord_of_ofWord? read))⟩
    · cases scanned

theorem Lexes.blank_cons (blank : c ∈ [' ', '\t', '\n', '\r']) (lexes : Lexes cs tokens) :
    Lexes (c :: cs) tokens := by
  cases lexes with
  | none rest => exact .none (List.forall_mem_cons.2 ⟨blank, rest⟩)
  | mark rest mark more => exact .mark (List.forall_mem_cons.2 ⟨blank, rest⟩) mark more
  | text rest itemised more => exact .text (List.forall_mem_cons.2 ⟨blank, rest⟩) itemised more
  | word word => exact .word word

theorem lexes_of_scan (scanned : scan (utf8 cs) = some tokens) : Lexes cs tokens := by
  induction length : cs.length using Nat.strong_induction_on generalizing cs tokens with
  | _ n ih =>
  subst length
  have nothing : Blank [] := List.forall_mem_nil _
  cases bytes_eq : utf8 cs with
  | nil =>
    rw [bytes_eq, scan] at scanned
    cases scanned
    cases cs with
    | nil => exact .none nothing
    | cons c cs => exact absurd (List.append_eq_nil_iff.1 bytes_eq).1 String.utf8EncodeChar_ne_nil
  | cons b bytes =>
    rw [bytes_eq] at scanned
    rcases scan_cons_cases scanned with ⟨space, scanned⟩ | ⟨token, more, rfl, mark | text | word⟩
    · obtain ⟨ascii, blank⟩ := blank_of_isSpace space
      obtain ⟨rest, rfl, rfl⟩ := Text.exists_of_utf8_eq_cons bytes_eq ascii
      exact (ih rest.length (by simp) scanned rfl).blank_cons blank
    · obtain ⟨mark, scanned⟩ := mark
      obtain ⟨ascii, mark⟩ := mem_marks_of_mark? mark
      obtain ⟨rest, rfl, rfl⟩ := Text.exists_of_utf8_eq_cons bytes_eq ascii
      exact .mark nothing mark (ih rest.length (by simp) scanned rfl)
    · obtain ⟨items, rest, rfl, rfl, read, scanned⟩ := text
      obtain ⟨inside, rfl, rfl⟩ := Text.exists_of_utf8_eq_cons bytes_eq (by decide)
      obtain ⟨written, after, rfl, rfl, itemised⟩ := TextItem.exists_itemised read
      exact .text nothing itemised (ih after.length (by grind) scanned rfl)
    · exact .word word

theorem Lexes.of_mark (lexes : Lexes cs (token :: tokens)) (mark : (c, token) ∈ marks) :
    ∃ before rest, Blank before ∧ cs = before ++ c :: rest ∧ Lexes rest tokens := by
  cases lexes with
  | @mark before rest c' _ _ blank mark' more =>
    have distinct : ∀ one ∈ marks, ∀ other ∈ marks, one.2 = other.2 → one.1 = other.1 := by
      decide
    obtain rfl : c' = c := distinct _ mark' _ mark rfl
    exact ⟨before, rest, blank, rfl, more⟩
  | text => simp [marks] at mark
  | word word =>
    have noWord : ∀ other ∈ marks, other.2.isWord = false := by decide
    rw [noWord _ mark] at word
    cases word

theorem Lexes.of_text {items : List TextItem} (lexes : Lexes cs (.text items :: tokens)) :
    ∃ before written rest, Blank before ∧ cs = before ++ '"' :: (written ++ '"' :: rest) ∧
      TextItem.Itemised written items ∧ Lexes rest tokens := by
  cases lexes with
  | mark _ mark => simp [marks] at mark
  | text blank itemised more => exact ⟨_, _, _, blank, rfl, itemised, more⟩
  | word word => cases word

theorem Lexes.of_none (lexes : Lexes cs []) : Blank cs := by
  cases lexes with
  | none blank => exact blank

end

end SecretResolver.Json.Token
