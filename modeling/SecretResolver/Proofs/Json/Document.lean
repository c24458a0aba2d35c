import Mathlib.Data.List.Forall2
import SecretResolver.Json.Value
import SecretResolver.Proofs.Json.Lexemes

set_option autoImplicit false

namespace SecretResolver.Json

open Text (utf8)

def Blank (cs : List Char) : Prop :=
  ∀ c ∈ cs, c ∈ [' ', '\t', '\n', '\r']

mutual

inductive Writes : List Char → Json → Prop where
  | null : Writes "null".toList .null
  | true : Writes "true".toList (.bool true)
  | false : Writes "false".toList (.bool false)
  | number {written : List Char} {n : Numeral} {value : Number} (writes : n.Writes written)
      (kept : n.number? = some value) : Writes written (.number value)
  | string {written : List Char} {text : String} (spells : SpellsText written text.toList) :
      Writes ('"' :: (written ++ ['"'])) (.string text)
  | noItems {between : List Char} (blank : Blank between) :
      Writes ('[' :: (between ++ [']'])) (.array [])
  | items {written : List Char} {items : List Json} (inside : WritesItems written items) :
      Writes ('[' :: (written ++ [']'])) (.array items)
  | noMembers {between : List Char} (blank : Blank between) :
      Writes ('{' :: (between ++ ['}'])) (.object [])
  | members {written : List Char} {members : List (String × Json)}
      (inside : WritesMembers written members) :
      Writes ('{' :: (written ++ ['}'])) (.object members)

inductive WritesPadded : List Char → Json → Prop where
  | pad {before written after : List Char} {value : Json} (blankBefore : Blank before)
      (writes : Writes written value) (blankAfter : Blank after) :
      WritesPadded (before ++ (written ++ after)) value

inductive WritesItems : List Char → List Json → Prop where
  | last {written : List Char} {item : Json} (writes : WritesPadded written item) :
      WritesItems written [item]
  | more {written rest : List Char} {item : Json} {items : List Json}
      (writes : WritesPadded written item) (others : WritesItems rest items) :
      WritesItems (written ++ ',' :: rest) (item :: items)

inductive WritesMember : List Char → String × Json → Prop where
  | pair {before name between written : List Char} {key : String} {value : Json}
      (blankBefore : Blank before) (spells : SpellsText name key.toList)
      (blankBetween : Blank between) (writes : WritesPadded written value) :
      WritesMember (before ++ '"' :: (name ++ '"' :: (between ++ ':' :: written))) (key, value)

inductive WritesMembers : List Char → List (String × Json) → Prop where
  | last {written : List Char} {member : String × Json} (writes : WritesMember written member) :
      WritesMembers written [member]
  | more {written rest : List Char} {member : String × Json} {members : List (String × Json)}
      (writes : WritesMember written member) (others : WritesMembers rest members) :
      WritesMembers (written ++ ',' :: rest) (member :: members)

end

mutual

def depth : Json → Nat
  | .array items => itemsDepth items + 1
  | .object members => membersDepth members + 1
  | _ => 0

def itemsDepth : List Json → Nat
  | [] => 0
  | item :: items => max item.depth (itemsDepth items)

def membersDepth : List (String × Json) → Nat
  | [] => 0
  | (_, value) :: members => max value.depth (membersDepth members)

end

namespace Tree

def run (state : State) (bytes : List UInt8) : Option State :=
  (Token.scan bytes).bind fun tokens => tokens.foldlM step state

section

variable {state : State} {rest : List UInt8}

theorem run_nil : run state [] = some state := by
  simp [run, Token.scan]

theorem run_token {token : Token} {written : List UInt8}
    (scanned : Token.scan (written ++ rest) = (Token.scan rest).map (token :: ·)) :
    run state (written ++ rest) = (step state token).bind fun next => run next rest := by
  unfold run
  rw [scanned]
  cases Token.scan rest <;> cases stepped : step state token <;> simp [stepped]

theorem run_mark {b : UInt8} {token : Token} (solid : Token.isSpace b = false)
    (mark : Token.mark? b = some token) :
    run state (b :: rest) = (step state token).bind fun next => run next rest := by
  have scanned : Token.scan ([b] ++ rest) = (Token.scan rest).map (token :: ·) :=
    Token.scan_mark solid mark rest
  exact run_token scanned

theorem run_blank {blank : List Char} (isBlank : Blank blank) :
    run state (utf8 blank ++ rest) = run state rest := by
  induction blank with
  | nil => rfl
  | cons c blank ih =>
    have space : ∃ b, String.utf8EncodeChar c = [b] ∧ Token.isSpace b = true := by
      have char := isBlank c List.mem_cons_self
      simp only [List.mem_cons, List.not_mem_nil, or_false] at char
      rcases char with rfl | rfl | rfl | rfl <;> exact ⟨_, rfl, rfl⟩
    obtain ⟨b, bytes_eq, space⟩ := space
    rw [Text.utf8_cons, bytes_eq, ← ih fun c mem => isBlank c (List.mem_cons_of_mem _ mem)]
    simp [run, Token.scan_blank space]

theorem stops_blank {blank : List Char} (isBlank : Blank blank) (stops : Token.Stops rest) :
    Token.Stops (utf8 blank ++ rest) := by
  cases blank with
  | nil => exact stops
  | cons c blank =>
    have char := isBlank c List.mem_cons_self
    simp only [List.mem_cons, List.not_mem_nil, or_false] at char
    rcases char with rfl | rfl | rfl | rfl <;> rintro _ ⟨⟩ <;> rfl

end

def Begins (place : Place) : Prop :=
  place = .value ∨ place = .firstItem

def Names (place : Place) : Prop :=
  place = .name ∨ place = .firstName

def ReadsValue (written : List Char) (tree : Tree) : Prop :=
  ∀ place frames rest, Begins place → Token.Stops rest →
    run (.inside place frames) (utf8 written ++ rest) =
      (complete tree frames).bind fun next => run next rest

def ReadsItems (written : List Char) (items : List Tree) : Prop :=
  ∀ place done frames rest, Begins place →
    run (.inside place (.array done :: frames)) (utf8 written ++ 0x5D :: rest) =
      (complete (.array (done.reverse ++ items)) frames).bind fun next => run next rest

def ReadsMember (written : List Char) (member : List TextItem × Tree) : Prop :=
  ∀ place done frames rest, Names place → Token.Stops rest →
    run (.inside place (.object done :: frames)) (utf8 written ++ rest) =
      run (.inside .separator (.object (member :: done) :: frames)) rest

def ReadsMembers (written : List Char) (members : List (List TextItem × Tree)) : Prop :=
  ∀ place done frames rest, Names place →
    run (.inside place (.object done :: frames)) (utf8 written ++ 0x7D :: rest) =
      (complete (.object (done.reverse ++ members)) frames).bind fun next => run next rest

theorem complete_array (tree : Tree) (done : List Tree) (frames : List Frame) :
    complete tree (.array done :: frames) =
      some (.inside .separator (.array (tree :: done) :: frames)) :=
  rfl

theorem step_begins {place : Place} (begins : Begins place) (token : Token)
    (opens : token ≠ .closeBracket) (frames : List Frame) :
    step (.inside place frames) token = beginValue token frames := by
  rcases begins with rfl | rfl
  · rfl
  · unfold step
    split <;> simp_all

theorem readsValue_word {written : List Char} {token : Token} {tree : Tree}
    (writes : Token.WritesWord written token)
    (begins : ∀ frames, beginValue token frames = complete tree frames) :
    ReadsValue written tree := by
  intro place frames rest isPlace stops
  have opens : token ≠ .closeBracket := by
    cases writes <;> nofun
  rw [run_token (Token.scan_word writes stops), step_begins isPlace token opens, begins]

theorem readsValue_padded {before written after : List Char} {tree : Tree}
    (blankBefore : Blank before) (reads : ReadsValue written tree) (blankAfter : Blank after) :
    ReadsValue (before ++ (written ++ after)) tree := by
  intro place frames rest isPlace stops
  rw [Text.utf8_append, Text.utf8_append, List.append_assoc, List.append_assoc,
    run_blank blankBefore, reads place frames _ isPlace (stops_blank blankAfter stops)]
  simp only [run_blank blankAfter]

theorem exists_readsValue_text {written : List Char} {text : String}
    (spells : SpellsText written text.toList) : ∃ items, TextItem.string? items = some text ∧
      ReadsValue ('"' :: (written ++ ['"'])) (.text items) := by
  obtain ⟨items, means, scanned⟩ := Token.scan_text spells
  refine ⟨items, means, fun place frames rest isPlace _ => ?_⟩
  have scanned : Token.scan (utf8 ('"' :: (written ++ ['"'])) ++ rest) =
      (Token.scan rest).map (.text items :: ·) := by
    rw [← scanned rest]
    simp [Text.utf8EncodeChar_ascii]
  rw [run_token scanned, step_begins isPlace (.text items) nofun]
  rfl

theorem readsValue_noItems {between : List Char} (blank : Blank between) :
    ReadsValue ('[' :: (between ++ [']'])) (.array []) := by
  intro place frames rest isPlace _
  have bytes_eq : utf8 ('[' :: (between ++ [']'])) ++ rest =
      0x5B :: (utf8 between ++ 0x5D :: rest) := by
    simp [Text.utf8EncodeChar_ascii]
  rw [bytes_eq, run_mark rfl rfl, step_begins isPlace .openBracket nofun]
  simp only [beginValue, Option.bind_some]
  rw [run_blank blank, run_mark rfl rfl]
  rfl

theorem readsValue_items {written : List Char} {items : List Tree}
    (inside : ReadsItems written items) :
    ReadsValue ('[' :: (written ++ [']'])) (.array items) := by
  intro place frames rest isPlace _
  have bytes_eq : utf8 ('[' :: (written ++ [']'])) ++ rest =
      0x5B :: (utf8 written ++ 0x5D :: rest) := by
    simp [Text.utf8EncodeChar_ascii]
  rw [bytes_eq, run_mark rfl rfl, step_begins isPlace .openBracket nofun]
  exact inside .firstItem [] frames rest (.inr rfl)

theorem readsValue_noMembers {between : List Char} (blank : Blank between) :
    ReadsValue ('{' :: (between ++ ['}'])) (.object []) := by
  intro place frames rest isPlace _
  have bytes_eq : utf8 ('{' :: (between ++ ['}'])) ++ rest =
      0x7B :: (utf8 between ++ 0x7D :: rest) := by
    simp [Text.utf8EncodeChar_ascii]
  rw [bytes_eq, run_mark rfl rfl, step_begins isPlace .openBrace nofun]
  simp only [beginValue, Option.bind_some]
  rw [run_blank blank, run_mark rfl rfl]
  rfl

theorem readsValue_members {written : List Char} {members : List (List TextItem × Tree)}
    (inside : ReadsMembers written members) :
    ReadsValue ('{' :: (written ++ ['}'])) (.object members) := by
  intro place frames rest isPlace _
  have bytes_eq : utf8 ('{' :: (written ++ ['}'])) ++ rest =
      0x7B :: (utf8 written ++ 0x7D :: rest) := by
    simp [Text.utf8EncodeChar_ascii]
  rw [bytes_eq, run_mark rfl rfl, step_begins isPlace .openBrace nofun]
  exact inside .firstName [] frames rest (.inr rfl)

theorem readsItems_last {written : List Char} {item : Tree} (reads : ReadsValue written item) :
    ReadsItems written [item] := by
  intro place done frames rest isPlace
  rw [reads place _ _ isPlace (by rintro _ ⟨⟩; rfl), complete_array, Option.bind_some,
    run_mark rfl rfl]
  simp [step]

theorem readsItems_more {written rest : List Char} {item : Tree} {items : List Tree}
    (reads : ReadsValue written item) (others : ReadsItems rest items) :
    ReadsItems (written ++ ',' :: rest) (item :: items) := by
  intro place done frames after isPlace
  have bytes_eq : utf8 (written ++ ',' :: rest) ++ 0x5D :: after =
      utf8 written ++ 0x2C :: (utf8 rest ++ 0x5D :: after) := by
    simp [Text.utf8EncodeChar_ascii]
  rw [bytes_eq, reads place _ _ isPlace (by rintro _ ⟨⟩; rfl), complete_array, Option.bind_some,
    run_mark rfl rfl]
  simp only [step, Option.bind_some]
  rw [others .value (item :: done) frames after (.inl rfl), List.reverse_cons, List.append_assoc,
    List.singleton_append]

theorem exists_readsMember {before name between written : List Char} {key : String} {tree : Tree}
    (blankBefore : Blank before) (spells : SpellsText name key.toList)
    (blankBetween : Blank between) (reads : ReadsValue written tree) :
    ∃ items, TextItem.string? items = some key ∧
      ReadsMember (before ++ '"' :: (name ++ '"' :: (between ++ ':' :: written)))
        (items, tree) := by
  obtain ⟨items, means, scanned⟩ := Token.scan_text spells
  refine ⟨items, means, fun place done frames rest isPlace stops => ?_⟩
  have bytes_eq : utf8 (before ++ '"' :: (name ++ '"' :: (between ++ ':' :: written))) ++ rest =
      utf8 before ++ 0x22 :: (utf8 name ++ 0x22 ::
        (utf8 between ++ 0x3A :: (utf8 written ++ rest))) := by
    simp [Text.utf8EncodeChar_ascii]
  have named : step (.inside place (.object done :: frames)) (.text items) =
      some (.inside .colon (.member done items :: frames)) := by
    rcases isPlace with rfl | rfl <;> cases done <;> rfl
  have scanned (after : List UInt8) : run (.inside place (.object done :: frames))
      (0x22 :: (utf8 name ++ 0x22 :: after)) =
        run (.inside .colon (.member done items :: frames)) after := by
    have scanned : Token.scan ((0x22 :: (utf8 name ++ [0x22])) ++ after) =
        (Token.scan after).map (.text items :: ·) := by
      rw [← scanned after]
      simp
    have read := named ▸ run_token scanned
    simpa using read
  rw [bytes_eq, run_blank blankBefore, scanned, run_blank blankBetween, run_mark rfl rfl]
  simp only [step, Option.bind_some]
  rw [reads .value _ rest (.inl rfl) stops]
  rfl

theorem readsMembers_last {written : List Char} {member : List TextItem × Tree}
    (reads : ReadsMember written member) : ReadsMembers written [member] := by
  intro place done frames rest isPlace
  rw [reads place done frames _ isPlace (by rintro _ ⟨⟩; rfl), run_mark rfl rfl]
  simp [step]

theorem readsMembers_more {written rest : List Char} {member : List TextItem × Tree}
    {members : List (List TextItem × Tree)} (reads : ReadsMember written member)
    (others : ReadsMembers rest members) :
    ReadsMembers (written ++ ',' :: rest) (member :: members) := by
  intro place done frames after isPlace
  have bytes_eq : utf8 (written ++ ',' :: rest) ++ 0x7D :: after =
      utf8 written ++ 0x2C :: (utf8 rest ++ 0x7D :: after) := by
    simp [Text.utf8EncodeChar_ascii]
  rw [bytes_eq, reads place done frames _ isPlace (by rintro _ ⟨⟩; rfl), run_mark rfl rfl]
  simp only [step, Option.bind_some]
  rw [others .name (member :: done) frames after (.inl rfl), List.reverse_cons, List.append_assoc,
    List.singleton_append]

def Means (tree : Tree) (value : Json) : Prop :=
  ∀ limit, tree.value? limit = if value.depth ≤ limit then some value else none

def MeansMember (tree : List TextItem × Tree) (member : String × Json) : Prop :=
  TextItem.string? tree.1 = some member.1 ∧ Means tree.2 member.2

theorem means_array {trees : List Tree} {items : List Json}
    (inside : List.Forall₂ Means trees items) :
    Means (.array trees) (.array items) := by
  have values (limit : Nat) :
      values? limit trees = if itemsDepth items ≤ limit then some items else none := by
    induction inside with
    | nil => simp [values?, itemsDepth]
    | @cons tree item trees items first _ ih =>
      by_cases fits : item.depth ≤ limit <;> by_cases fit : itemsDepth items ≤ limit <;>
        simp [values?, itemsDepth, first limit, ih, fits, fit]
  intro limit
  cases limit with
  | zero => simp [value?, depth]
  | succ limit => by_cases fits : itemsDepth items ≤ limit <;> simp [value?, depth, values, fits]

theorem means_object {trees : List (List TextItem × Tree)} {members : List (String × Json)}
    (inside : List.Forall₂ MeansMember trees members) :
    Means (.object trees) (.object members) := by
  have values (limit : Nat) :
      memberValues? limit trees = if membersDepth members ≤ limit then some members else none := by
    induction inside with
    | nil => simp [memberValues?, membersDepth]
    | @cons tree member trees members first _ ih =>
      by_cases fits : member.2.depth ≤ limit <;> by_cases fit : membersDepth members ≤ limit <;>
        simp [memberValues?, membersDepth, first.1, first.2 limit, ih, fits, fit]
  intro limit
  cases limit with
  | zero => simp [value?, depth]
  | succ limit =>
    by_cases fits : membersDepth members ≤ limit <;> simp [value?, depth, values, fits]

mutual

theorem exists_of_writes {written : List Char} {value : Json} :
    Writes written value → ∃ tree, ReadsValue written tree ∧ Means tree value
  | .null => ⟨.null, readsValue_word .null fun _ => rfl, fun _ => by simp [value?, depth]⟩
  | .true => ⟨.bool true, readsValue_word .true fun _ => rfl, fun _ => by simp [value?, depth]⟩
  | .false => ⟨.bool false, readsValue_word .false fun _ => rfl, fun _ => by simp [value?, depth]⟩
  | .number (n := n) writes kept =>
    ⟨.number n, readsValue_word (.number writes) fun _ => rfl, fun _ => by
      simp [value?, depth, kept]⟩
  | .string spells => by
    obtain ⟨items, means, reads⟩ := exists_readsValue_text spells
    exact ⟨.text items, reads, fun _ => by simp [value?, depth, means]⟩
  | .noItems blank => ⟨.array [], readsValue_noItems blank, means_array .nil⟩
  | .items inside => by
    obtain ⟨trees, reads, means⟩ := exists_of_writesItems inside
    exact ⟨.array trees, readsValue_items reads, means_array means⟩
  | .noMembers blank => ⟨.object [], readsValue_noMembers blank, means_object .nil⟩
  | .members inside => by
    obtain ⟨trees, reads, means⟩ := exists_of_writesMembers inside
    exact ⟨.object trees, readsValue_members reads, means_object means⟩

theorem exists_of_writesPadded {written : List Char} {value : Json} :
    WritesPadded written value → ∃ tree, ReadsValue written tree ∧ Means tree value
  | .pad blankBefore writes blankAfter => by
    obtain ⟨tree, reads, means⟩ := exists_of_writes writes
    exact ⟨tree, readsValue_padded blankBefore reads blankAfter, means⟩

theorem exists_of_writesItems {written : List Char} {items : List Json} :
    WritesItems written items → ∃ trees, ReadsItems written trees ∧ List.Forall₂ Means trees items
  | .last writes => by
    obtain ⟨tree, reads, means⟩ := exists_of_writesPadded writes
    exact ⟨[tree], readsItems_last reads, .cons means .nil⟩
  | .more writes others => by
    obtain ⟨tree, reads, means⟩ := exists_of_writesPadded writes
    obtain ⟨trees, read, mean⟩ := exists_of_writesItems others
    exact ⟨tree :: trees, readsItems_more reads read, .cons means mean⟩

theorem exists_of_writesMember {written : List Char} {member : String × Json} :
    WritesMember written member → ∃ tree, ReadsMember written tree ∧ MeansMember tree member
  | .pair blankBefore spells blankBetween writes => by
    obtain ⟨tree, reads, means⟩ := exists_of_writesPadded writes
    obtain ⟨name, named, read⟩ := exists_readsMember blankBefore spells blankBetween reads
    exact ⟨(name, tree), read, named, means⟩

theorem exists_of_writesMembers {written : List Char} {members : List (String × Json)} :
    WritesMembers written members →
      ∃ trees, ReadsMembers written trees ∧ List.Forall₂ MeansMember trees members
  | .last writes => by
    obtain ⟨tree, reads, means⟩ := exists_of_writesMember writes
    exact ⟨[tree], readsMembers_last reads, .cons means .nil⟩
  | .more writes others => by
    obtain ⟨tree, reads, means⟩ := exists_of_writesMember writes
    obtain ⟨trees, read, mean⟩ := exists_of_writesMembers others
    exact ⟨tree :: trees, readsMembers_more reads read, .cons means mean⟩

end

theorem parse_of_reads {written : List Char} {tree : Tree} (reads : ReadsValue written tree) :
    parse (utf8 written) = some tree := by
  have read := reads .value [] [] (.inl rfl) (by rintro _ ⟨⟩)
  simp only [complete, Option.bind_some, run_nil, List.append_nil] at read
  obtain ⟨tokens, scanned, folded⟩ := Option.bind_eq_some_iff.1 read
  simp [parse, ofTokens?, scanned, folded]

theorem exists_parse {written : List Char} {value : Json} (writes : WritesPadded written value) :
    ∃ tree, parse (utf8 written) = some tree ∧ Means tree value := by
  obtain ⟨tree, reads, means⟩ := exists_of_writesPadded writes
  exact ⟨tree, parse_of_reads reads, means⟩

theorem Means.unique {tree : Tree} {value other : Json} (means : tree.Means value)
    (meansOther : tree.Means other) : value = other := by
  have one := means (max value.depth other.depth)
  have two := meansOther (max value.depth other.depth)
  rw [if_pos (Nat.le_max_left _ _)] at one
  rw [if_pos (Nat.le_max_right _ _)] at two
  exact Option.some.inj (one.symm.trans two)

theorem exists_parse_object {written : List Char} {members : List (String × Json)}
    (writes : WritesPadded written (.object members)) : ∃ trees,
      parse (utf8 written) = some (.object trees) ∧ List.Forall₂ MeansMember trees members := by
  cases writes with
  | pad blankBefore writes blankAfter =>
    cases writes with
    | noMembers blank =>
      exact ⟨[], parse_of_reads
        (readsValue_padded blankBefore (readsValue_noMembers blank) blankAfter), .nil⟩
    | members inside =>
      obtain ⟨trees, reads, means⟩ := exists_of_writesMembers inside
      exact ⟨trees, parse_of_reads
        (readsValue_padded blankBefore (readsValue_members reads) blankAfter), means⟩

end Tree

theorem WritesPadded.unique {written : List Char} {value other : Json}
    (writes : WritesPadded written value) (writesOther : WritesPadded written other) :
    value = other := by
  obtain ⟨tree, parsed, means⟩ := Tree.exists_parse writes
  obtain ⟨tree', parsed', meansOther⟩ := Tree.exists_parse writesOther
  obtain rfl := Option.some.inj (parsed.symm.trans parsed')
  exact means.unique meansOther

end SecretResolver.Json
