import Mathlib.Data.Bool.AllAny
import SecretResolver.Proofs.Json.Spelling

set_option autoImplicit false

namespace SecretResolver.Json

open Text (utf8)

namespace Numeral

def digitChar (d : Fin 10) : Char :=
  Char.ofNat ('0'.toNat + d)

def digits (ds : List (Fin 10)) : List Char :=
  ds.map digitChar

def values (ds : List (Fin 10)) : List Nat :=
  ds.map Fin.val

inductive WritesExponent : List Char → Option Int → Prop where
  | absent : WritesExponent [] none
  | unsigned {e : Char} {ds : List (Fin 10)} (mark : e = 'e' ∨ e = 'E') (some_digit : ds ≠ []) :
      WritesExponent (e :: digits ds) (some (ofDigits (values ds)))
  | plus {e : Char} {ds : List (Fin 10)} (mark : e = 'e' ∨ e = 'E') (some_digit : ds ≠ []) :
      WritesExponent (e :: '+' :: digits ds) (some (ofDigits (values ds)))
  | minus {e : Char} {ds : List (Fin 10)} (mark : e = 'e' ∨ e = 'E') (some_digit : ds ≠ []) :
      WritesExponent (e :: '-' :: digits ds) (some (-(ofDigits (values ds) : Int)))

def sign (negative : Bool) : List Char :=
  if negative then ['-'] else []

def point (fraction : List (Fin 10)) : List Char :=
  if fraction = [] then [] else '.' :: digits fraction

inductive Writes : List Char → Numeral → Prop where
  | parts (negative : Bool) {whole fraction : List (Fin 10)} {written : List Char}
      {exponent : Option Int} (some_digit : whole ≠ [])
      (no_leading_zero : whole.head? = some 0 → whole = [0])
      (power : WritesExponent written exponent) :
      Writes (sign negative ++ (digits whole ++ (point fraction ++ written)))
        { negative, whole := values whole, fraction := values fraction, exponent }

theorem digit?_digitChar (d : Fin 10) : digit? (digitChar d) = some d.val := by
  decide +revert

theorem digitChar_ne (d : Fin 10) : digitChar d ≠ '-' ∧ digitChar d ≠ '+' := by
  decide +revert

theorem takeDigits_append {rest : List Char} (stop : ∀ c ∈ rest.head?, digit? c = none)
    (ds : List (Fin 10)) : takeDigits (digits ds ++ rest) = (values ds, rest) := by
  induction ds with
  | nil =>
    cases rest with
    | nil => rfl
    | cons c rest => simp [digits, values, takeDigits, stop c rfl]
  | cons d ds ih =>
    simp only [digits, values] at ih
    simp [digits, values, takeDigits, digit?_digitChar, ih]

theorem takeDigits_digits (ds : List (Fin 10)) : takeDigits (digits ds) = (values ds, []) := by
  have taken : takeDigits (digits ds ++ []) = (values ds, []) := takeDigits_append (by simp) ds
  rwa [List.append_nil] at taken

theorem magnitude_digits {ds : List (Fin 10)} (some_digit : ds ≠ []) :
    readSigned.magnitude (digits ds) = some (ofDigits (values ds)) := by
  rw [readSigned.magnitude, takeDigits_digits]
  cases ds with
  | nil => exact absurd rfl some_digit
  | cons d ds => rfl

theorem readSigned_digits {ds : List (Fin 10)} (some_digit : ds ≠ []) :
    readSigned (digits ds) = some (ofDigits (values ds) : Int) := by
  have read := magnitude_digits some_digit
  cases ds with
  | nil => exact absurd rfl some_digit
  | cons d ds =>
    unfold readSigned
    split
    · next same => exact absurd (List.cons.inj same).1 (digitChar_ne d).1
    · next same => exact absurd (List.cons.inj same).1 (digitChar_ne d).2
    · simp [read]

theorem readExponent_written {written : List Char} {exponent : Option Int}
    (power : WritesExponent written exponent) : readExponent written = some exponent := by
  cases power with
  | absent => rfl
  | unsigned mark some_digit => simp [readExponent, mark, readSigned_digits some_digit]
  | plus mark some_digit =>
    simp [readExponent, mark, readSigned, magnitude_digits some_digit]
  | minus mark some_digit =>
    simp [readExponent, mark, readSigned, magnitude_digits some_digit]

theorem head?_exponent {written : List Char} {exponent : Option Int}
    (power : WritesExponent written exponent) :
    ∀ c ∈ written.head?, digit? c = none ∧ c ≠ '.' := by
  have marks : ∀ e : Char, e = 'e' ∨ e = 'E' → digit? e = none ∧ e ≠ '.' := by
    rintro _ (rfl | rfl) <;> decide
  cases power with
  | absent => simp
  | unsigned mark _ | plus mark _ | minus mark _ => simpa using marks _ mark

theorem readFraction_written {written : List Char} {exponent : Option Int}
    (power : WritesExponent written exponent) (fraction : List (Fin 10)) :
    readFraction (point fraction ++ written) = some (values fraction, written) := by
  have stop := head?_exponent power
  by_cases none_written : fraction = []
  · subst none_written
    cases written with
    | nil => rfl
    | cons c written =>
      have noPoint := (stop c rfl).2
      simp only [point, if_true, List.nil_append]
      unfold readFraction
      split
      · next same => exact absurd (List.cons.inj same).1 noPoint
      · rfl
  · obtain ⟨d, ds, rfl⟩ := List.exists_cons_of_ne_nil none_written
    have taken := takeDigits_append (fun c mem => (stop c mem).1) (d :: ds)
    simp only [point, if_neg none_written, List.cons_append, readFraction, taken]
    rfl

theorem readWhole_written {whole : List (Fin 10)} {rest : List Char} (some_digit : whole ≠ [])
    (no_leading_zero : whole.head? = some 0 → whole = [0])
    (stop : ∀ c ∈ rest.head?, digit? c = none) :
    readWhole (digits whole ++ rest) = some (values whole, rest) := by
  unfold readWhole
  rw [takeDigits_append stop]
  split
  · next same =>
    exact absurd (List.map_eq_nil_iff.1 (Prod.mk.inj same).1) some_digit
  · next same =>
    obtain ⟨d, ds, rfl, zero, more⟩ := List.map_eq_cons_iff.1 (Prod.mk.inj same).1
    have first : d = 0 := Fin.ext zero
    subst first
    cases no_leading_zero rfl
    cases more
  · next same => rw [same]

theorem read_written {written : List Char} {n : Numeral} (writes : Writes written n) :
    read written = some n := by
  obtain @⟨negative, whole, fraction, written, exponent, some_digit, no_leading_zero, power⟩ :=
    writes
  have stop : ∀ c ∈ (point fraction ++ written).head?, digit? c = none := by
    by_cases none_written : fraction = []
    · simpa [point, none_written] using fun c mem => (head?_exponent power c mem).1
    · simp [point, none_written]
      decide
  have readWhole_eq := readWhole_written some_digit no_leading_zero stop
  obtain ⟨d, ds, rfl⟩ := List.exists_cons_of_ne_nil some_digit
  cases negative with
  | true =>
    simp [read, sign, readWhole_eq, readFraction_written power, readExponent_written power]
  | false =>
    have noSign := (digitChar_ne d).1
    simp only [digits, List.map_cons, List.cons_append] at readWhole_eq
    simp [read, sign, digits, noSign, readWhole_eq, readFraction_written power,
      readExponent_written power]

theorem mem_of_mem_digits {ds : List (Fin 10)} {c : Char} (mem : c ∈ digits ds) :
    c ∈ "0123456789+-.eE".toList := by
  obtain ⟨d, -, rfl⟩ := List.mem_map.1 mem
  clear mem
  decide +revert

theorem mem_of_mem_exponent {written : List Char} {exponent : Option Int} {c : Char}
    (power : WritesExponent written exponent) (mem : c ∈ written) :
    c ∈ "0123456789+-.eE".toList := by
  cases power with
  | absent => cases mem
  | unsigned mark _ =>
    rcases List.mem_cons.1 mem with rfl | mem
    · rcases mark with rfl | rfl <;> decide
    · exact mem_of_mem_digits mem
  | plus mark _ | minus mark _ =>
    rcases List.mem_cons.1 mem with rfl | mem
    · rcases mark with rfl | rfl <;> decide
    rcases List.mem_cons.1 mem with rfl | mem
    · decide
    · exact mem_of_mem_digits mem

theorem mem_of_mem_written {written : List Char} {n : Numeral} {c : Char}
    (writes : Writes written n) (mem : c ∈ written) : c ∈ "0123456789+-.eE".toList := by
  obtain @⟨negative, whole, fraction, written, exponent, -, -, power⟩ := writes
  simp only [List.mem_append] at mem
  rcases mem with mem | mem | mem | mem
  · cases negative with
    | true =>
      obtain rfl := List.mem_singleton.1 mem
      decide
    | false => cases mem
  · exact mem_of_mem_digits mem
  · by_cases none_written : fraction = []
    · simp [point, none_written] at mem
    · rw [point, if_neg none_written] at mem
      rcases List.mem_cons.1 mem with rfl | mem
      · decide
      · exact mem_of_mem_digits mem
  · exact mem_of_mem_exponent power mem

end Numeral

namespace Token

inductive WritesWord : List Char → Token → Prop where
  | null : WritesWord "null".toList .null
  | true : WritesWord "true".toList (.bool true)
  | false : WritesWord "false".toList (.bool false)
  | number {written : List Char} {n : Numeral} (writes : n.Writes written) :
      WritesWord written (.number n)

def IsWordChar (c : Char) : Prop :=
  c.toNat < 128 ∧ isWordByte (UInt8.ofNat c.toNat) = true

theorem utf8_ascii {cs : List Char} (ascii : ∀ c ∈ cs, c.toNat < 128) :
    utf8 cs = cs.map fun c => UInt8.ofNat c.toNat := by
  induction cs with
  | nil => rfl
  | cons c cs ih =>
    rw [Text.utf8_cons, Text.utf8EncodeChar_ascii (ascii c List.mem_cons_self),
      ih fun c mem => ascii c (List.mem_cons_of_mem _ mem)]
    rfl

theorem map_utf8_ascii {cs : List Char} (ascii : ∀ c ∈ cs, c.toNat < 128) :
    (utf8 cs).map (fun b => Char.ofNat b.toNat) = cs := by
  rw [utf8_ascii ascii, List.map_map]
  refine (List.map_congr_left fun c mem => ?_).trans (List.map_id cs)
  have value : (UInt8.ofNat c.toNat).toNat = c.toNat := by
    have := ascii c mem
    simp
    omega
  rw [Function.comp_apply, value, Char.ofNat_toNat, id]

theorem isWordChar_of_word {written : List Char} {token : Token}
    (writes : WritesWord written token) : ∀ c ∈ written, IsWordChar c := by
  unfold IsWordChar
  cases writes with
  | null | true | false => exact List.all_iff_forall_prop.1 (by decide)
  | number writes =>
    have all : ∀ c ∈ "0123456789+-.eE".toList,
        c.toNat < 128 ∧ isWordByte (UInt8.ofNat c.toNat) = true :=
      List.all_iff_forall_prop.1 (by decide)
    exact fun c mem => all c (Numeral.mem_of_mem_written writes mem)

theorem ofWord?_word {written : List Char} {token : Token} (writes : WritesWord written token) :
    ofWord? (utf8 written) = some token := by
  have chars := map_utf8_ascii fun c mem => (isWordChar_of_word writes c mem).1
  unfold ofWord?
  rw [chars]
  cases writes with
  | null | true | false => rfl
  | number writes =>
    have read := Numeral.read_written writes
    split
    · cases read
    · cases read
    · cases read
    · rw [read]
      rfl

theorem scan_blank {b : UInt8} (blank : isSpace b = true) (rest : List UInt8) :
    scan (b :: rest) = scan rest := by
  rw [scan, if_pos blank]

theorem scan_replicate_blank (n : Nat) (rest : List UInt8) :
    scan (List.replicate n 0x20 ++ rest) = scan rest := by
  induction n with
  | zero => rfl
  | succ n ih => rw [List.replicate_succ, List.cons_append, scan_blank rfl, ih]

theorem scan_mark {b : UInt8} {token : Token} (solid : isSpace b = false)
    (mark : mark? b = some token) (rest : List UInt8) :
    scan (b :: rest) = (scan rest).map (token :: ·) := by
  rw [scan, if_neg (by simp [solid]), mark]

theorem scan_text {written : List Char} {text : String}
    (spells : SpellsText written text.toList) : ∃ items, TextItem.string? items = some text ∧
      ∀ rest, scan (0x22 :: (utf8 written ++ 0x22 :: rest)) =
        (scan rest).map (.text items :: ·) := by
  obtain ⟨items, means, read⟩ := TextItem.exists_readText spells
  refine ⟨items, means, fun rest => ?_⟩
  rw [scan, if_neg (by decide)]
  simp only [show mark? 0x22 = none from rfl, if_true]
  split
  · next read' =>
    rw [read] at read'
    cases read'
    rfl
  · next read' =>
    rw [read] at read'
    cases read'

-- what follows a word must not go on with it
def Stops (rest : List UInt8) : Prop :=
  ∀ b ∈ rest.head?, isWordByte b = false

theorem scan_word {written : List Char} {token : Token} (writes : WritesWord written token)
    {rest : List UInt8} (stops : Stops rest) :
    scan (utf8 written ++ rest) = (scan rest).map (token :: ·) := by
  have chars := isWordChar_of_word writes
  have word := ofWord?_word writes
  have wordBytes : ∀ b ∈ utf8 written, isWordByte b = true := by
    rw [utf8_ascii fun c mem => (chars c mem).1]
    simpa using fun c mem => (chars c mem).2
  cases bytes_eq : utf8 written with
  | nil =>
    rw [bytes_eq] at word
    cases word
  | cons b bytes =>
    rw [bytes_eq] at word wordBytes
    have first := wordBytes b List.mem_cons_self
    have more : ∀ b ∈ bytes, isWordByte b = true :=
      fun b mem => wordBytes b (List.mem_cons_of_mem _ mem)
    have cut : (bytes ++ rest).takeWhile isWordByte = bytes ∧
        (bytes ++ rest).dropWhile isWordByte = rest := by
      rw [List.takeWhile_append_of_pos more, List.dropWhile_append_of_pos more]
      cases rest with
      | nil => simp
      | cons c rest => simp [stops c rfl]
    simp only [isWordByte, Bool.not_eq_true', Bool.or_eq_false_iff, Option.isSome_eq_false_iff,
      Option.isNone_iff_eq_none, beq_eq_false_iff_ne] at first
    rw [List.cons_append, scan, if_neg (by simp [first]), first.1.2]
    simp only [if_neg first.2, cut, word]

end Token

end SecretResolver.Json
