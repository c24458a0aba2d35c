import SecretResolver.Proofs.Json.Consumed
import SecretResolver.Proofs.Json.Lexing
import SecretResolver.Proofs.Resolver.Interchange

set_option autoImplicit false

namespace SecretResolver.SecretsFile

open Json (Tree Token TextItem Writes WritesPadded WritesMember WritesMembers)
open Json.Token (Lexes marks)
open Text (utf8)

def SpellsEntry (member : List TextItem × Tree) (entry : String × String) : Prop :=
  TextItem.string? member.1 = some entry.1 ∧ member.2.string? = some entry.2

def textMember (entry : String × String) : String × Json :=
  (entry.1, .string entry.2)

theorem Contents.json_eq (c : Contents) : c.json = .object (c.map textMember) :=
  rfl

-- the blanks after the value are those before the mark that follows it
theorem exists_writesMember {cs : List Char} {member : List TextItem × Tree}
    {entry : String × String} {c : Char} {token : Token} {tokens : List Token}
    (spells : SpellsEntry member entry) (mark : (c, token) ∈ marks)
    (lexes : Lexes cs (.text member.1 :: .colon :: (member.2.tokens ++ token :: tokens))) :
    ∃ written rest, cs = written ++ c :: rest ∧ WritesMember written (textMember entry) ∧
      Lexes rest tokens := by
  obtain ⟨name, value⟩ := member
  obtain ⟨named, valued⟩ := spells
  cases value with
  | text items =>
    have colon : (':', Token.colon) ∈ marks := by decide
    obtain ⟨before, spelled, _, blankBefore, rfl, itemised, afterName⟩ := lexes.of_text
    obtain ⟨between, _, blankBetween, rfl, afterColon⟩ := afterName.of_mark colon
    obtain ⟨inside, text, _, blankInside, rfl, itemisedText, afterText⟩ := afterColon.of_text
    obtain ⟨after, rest, blankAfter, rfl, afterMark⟩ := afterText.of_mark mark
    have value : WritesPadded (inside ++ (('"' :: (text ++ ['"'])) ++ after)) (.string entry.2) :=
      .pad blankInside (.string (TextItem.spellsText_of_string? itemisedText valued)) blankAfter
    have spellsName := TextItem.spellsText_of_string? itemised named
    exact ⟨_, rest, by simp, .pair blankBefore spellsName blankBetween value, afterMark⟩
  | _ => cases valued

theorem exists_writesMembers {cs : List Char} {member : List TextItem × Tree}
    {members : List (List TextItem × Tree)} {c : Contents} {tokens : List Token}
    (spells : List.Forall₂ SpellsEntry (member :: members) c)
    (lexes : Lexes cs ((Tree.memberTokens (member :: members)).tail ++ .closeBrace :: tokens)) :
    ∃ written rest, cs = written ++ '}' :: rest ∧ WritesMembers written (c.map textMember) ∧
      Lexes rest tokens := by
  induction members generalizing cs member c with
  | nil =>
    obtain ⟨entry, _, first, none, rfl⟩ := List.forall₂_cons_left_iff.1 spells
    cases none
    have brace : ('}', Token.closeBrace) ∈ marks := by decide
    simp only [Tree.memberTokens, List.append_nil, List.tail_cons, List.cons_append] at lexes
    obtain ⟨written, rest, rfl, writes, lexes⟩ := exists_writesMember first brace lexes
    exact ⟨written, rest, rfl, .last writes, lexes⟩
  | cons next members ih =>
    obtain ⟨entry, c, first, others, rfl⟩ := List.forall₂_cons_left_iff.1 spells
    have comma : (',', Token.comma) ∈ marks := by decide
    have split : (Tree.memberTokens (member :: next :: members)).tail ++ .closeBrace :: tokens =
        .text member.1 :: .colon :: (member.2.tokens ++ .comma ::
          ((Tree.memberTokens (next :: members)).tail ++ .closeBrace :: tokens)) := by
      simp [Tree.memberTokens]
    rw [split] at lexes
    obtain ⟨written, rest, rfl, writes, lexes⟩ := exists_writesMember first comma lexes
    obtain ⟨more, rest, rfl, writesMore, lexes⟩ := ih others lexes
    exact ⟨written ++ ',' :: more, rest, by simp, .more writes writesMore, lexes⟩

theorem exists_members_of_parse {text : String} {c : Contents}
    (parsed : Contents.parse text = some c) : ∃ members,
      Tree.parse (utf8 text.toList) = some (.object members) ∧
        List.Forall₂ SpellsEntry members c := by
  unfold Contents.parse at parsed
  rw [Text.toList_toUTF8] at parsed
  split at parsed
  · next members read =>
    refine ⟨members, read, (mapM_eq_some_iff.1 parsed).imp ?_⟩
    rintro ⟨name, value⟩ ⟨key, text⟩ spelled
    simpa [Option.bind_eq_some_iff, SpellsEntry] using spelled
  · cases parsed

theorem writes_of_parse {text : String} {c : Contents} (parsed : Contents.parse text = some c) :
    WritesPadded text.toList c.json := by
  obtain ⟨members, read, spells⟩ := exists_members_of_parse parsed
  obtain ⟨tokens, scanned, read⟩ := Option.bind_eq_some_iff.1 read
  have opening : ('{', Token.openBrace) ∈ marks := by decide
  have closing : ('}', Token.closeBrace) ∈ marks := by decide
  obtain rfl := Tree.tokens_of_ofTokens? read
  obtain ⟨before, rest, blankBefore, text_eq, lexes⟩ :=
    (Token.lexes_of_scan scanned).of_mark opening
  rw [text_eq, Contents.json_eq]
  cases members with
  | nil =>
    cases spells
    obtain ⟨between, after, blankBetween, rfl, ends⟩ := Lexes.of_mark lexes closing
    have whole := WritesPadded.pad blankBefore (.noMembers blankBetween) ends.of_none
    simpa using whole
  | cons member members =>
    obtain ⟨written, after, rfl, writes, ends⟩ := exists_writesMembers spells lexes
    have whole := WritesPadded.pad blankBefore (.members writes) ends.of_none
    simpa using whole

theorem parse_eq_some_iff {text : String} {c : Contents} :
    Contents.parse text = some c ↔ WritesPadded text.toList c.json :=
  ⟨writes_of_parse, parse_of_writes⟩

inductive Unfit : Json → Prop where
  | other {value : Json} (noObject : ∀ members, value ≠ .object members) : Unfit value
  | member {before after : List (String × Json)} {name : String} {value : Json}
      (noText : ∀ text, value ≠ .string text) : Unfit (.object (before ++ (name, value) :: after))

theorem Unfit.ne_json {value : Json} (unfit : Unfit value) (c : Contents) : value ≠ c.json := by
  cases unfit with
  | other noObject => exact noObject _
  | @member before after name value noText =>
    intro same
    have members_eq : before ++ (name, value) :: after = c.map textMember := Json.object.inj same
    have mem : (name, value) ∈ c.map textMember := by
      rw [← members_eq]
      simp
    obtain ⟨entry, -, entry_eq⟩ := List.mem_map.1 mem
    exact noText entry.2 (Prod.mk.inj entry_eq).2.symm

inductive Contents.Finds (c : Contents) (path key : String) : Except Failure ByteArray → Prop where
  | last {before after : Contents} {text : String} (split : c = before ++ (key, text) :: after)
      (apart : ∀ entry ∈ after, entry.1 ≠ key) : Finds c path key (.ok text.toUTF8)
  | missing (apart : ∀ entry ∈ c, entry.1 ≠ key) :
      Finds c path key (.error (.notFound s!"Key '{key}' not in '{path}'"))

theorem Contents.finds_iff {c : Contents} {path key : String} {found : Except Failure ByteArray} :
    c.Finds path key found ↔ found = valueAt path key c := by
  constructor
  · intro finds
    cases finds with
    | last split apart =>
      have held : c.lookup key = some _ := Json.lastOf_eq_some_iff.2 ⟨_, _, split, apart⟩
      rw [valueAt, held]
    | missing apart =>
      have absent : c.lookup key = none := Json.lastOf_eq_none_iff.2 apart
      rw [valueAt, absent]
  · rintro rfl
    unfold valueAt
    cases found : c.lookup key with
    | none => exact .missing (Json.lastOf_eq_none_iff.1 found)
    | some text =>
      obtain ⟨before, after, split, apart⟩ := Json.lastOf_eq_some_iff.1 found
      exact .last split apart

section

variable [Libraries] {path : String} {files : FileTree}

-- what it comes to when the file of a path is loaded
inductive Loads (path : String) (files : FileTree) : Except Failure Contents → Prop where
  | unread {fault : FileFault} (reads : files.Reads path (.error fault)) :
      Loads path files (.error (.file path fault.message))
  | malformed {text : String} (reads : files.Reads path (.ok text))
      (unwritten : ∀ c : Contents, ¬ WritesPadded text.toList c.json) :
      Loads path files (.error (.parse path (Libraries.jsonComplaint text)))
  | loaded {text : String} {c : Contents} (reads : files.Reads path (.ok text))
      (writes : WritesPadded text.toList c.json) : Loads path files (.ok c)

theorem loads_load (path : String) (files : FileTree) : Loads path files (load path files) := by
  have reads := files.reads_text path
  cases read : files.text path with
  | error fault =>
    rw [read] at reads
    rw [load, read]
    exact .unread reads
  | ok text =>
    rw [read] at reads
    rw [load_text reads, parsed]
    cases parsed : Contents.parse text with
    | none =>
      refine .malformed reads fun c writes => ?_
      rw [parse_of_writes writes] at parsed
      cases parsed
    | some c => exact .loaded reads (parse_eq_some_iff.1 parsed)

theorem Loads.load_eq {result : Except Failure Contents} (loads : Loads path files result) :
    load path files = result := by
  cases loads with
  | unread reads =>
    rw [load, FileTree.reads_iff.1 reads]
    rfl
  | @malformed text reads unwritten =>
    rw [load_text reads, parsed]
    cases parsed : Contents.parse text with
    | none => rfl
    | some c => exact absurd (parse_eq_some_iff.1 parsed) (unwritten c)
  | loaded reads writes => rw [load_text reads, parsed, parse_of_writes writes]

theorem loads_iff {result : Except Failure Contents} :
    Loads path files result ↔ load path files = result :=
  ⟨Loads.load_eq, fun same => same ▸ loads_load path files⟩

variable {content : ByteArray} {text : String}

theorem load_eq_ok_iff (read : files.read path = .ok content) {c : Contents} :
    load path files = .ok c ↔
      ∃ text : String, content = text.toUTF8 ∧ WritesPadded text.toList c.json := by
  rw [← loads_iff]
  constructor
  · intro loads
    cases loads with
    | loaded reads writes =>
      cases reads with
      | text read' => exact ⟨_, Except.ok.inj (read.symm.trans read'), writes⟩
  · rintro ⟨text, rfl, writes⟩
    exact .loaded (.text read) writes

end

section

variable [Libraries]

variable (mapping : Template) (path : String) (s : Scene)

theorem gets_of_loaded (ids : List String) {c : Contents} (loads : load path s.files = .ok c) :
    List.Forall₂ (fun id answer => ∃ found, answer = .bytes found ∧
      c.Finds path (mapping.locate id) found)
      ids (((holding mapping path none).answers (ids.map .get)).run s).1.1 := by
  rw [answers_holding, loads, List.map_map, List.forall₂_map_right_iff, List.forall₂_same]
  intro id _
  exact ⟨_, (answer_valueAt mapping path (.secret (.get id)) c).symm, Contents.finds_iff.2 rfl⟩

theorem gets_of_failed (ids : List String) {failure : Failure}
    (failed : load path s.files = .error failure) :
    (((holding mapping path none).answers (ids.map .get)).run s).1.1 =
      ids.map fun _ => .bytes (.error failure) := by
  rw [answers_holding, failed, List.map_map]
  rfl

theorem contents_of_loaded {c : Contents} (loads : load path s.files = .ok c) :
    ((({ path } : SecretsFile).contents : StateM Scene _).run s).1 =
      (.ok c, { path, cache := some c }) := by
  rw [run_contents, loads]

theorem contents_of_failed {failure : Failure} (failed : load path s.files = .error failure) :
    ((({ path } : SecretsFile).contents : StateM Scene _).run s).1 =
      (.error failure, { path }) := by
  rw [run_contents, failed]

theorem load_eq_ok_of_contents {c : Contents}
    (loaded : ((({ path } : SecretsFile).contents : StateM Scene _).run s).1.1 = .ok c) :
    load path s.files = .ok c := by
  cases loads : load path s.files with
  | error failure =>
    rw [contents_of_failed path s loads] at loaded
    cases loaded
  | ok c' =>
    rw [contents_of_loaded path s loads] at loaded
    exact loaded

theorem whole_or_nothing (content : ByteArray) (read : s.files.read path = .ok content)
    (ids : List String) :
    let first := ((({ path } : SecretsFile).contents : StateM Scene _).run s).1
    let answers := (((holding mapping path none).answers (ids.map .get)).run s).1.1
    (∀ c, first = (.ok c, { path, cache := some c }) ↔
      ∃ text : String, content = text.toUTF8 ∧ WritesPadded text.toList c.json) ∧
    (∀ c, first.1 = .ok c → List.Forall₂ (fun id answer => ∃ found, answer = .bytes found ∧
      c.Finds path (mapping.locate id) found) ids answers) ∧
    ∀ text : String, content = text.toUTF8 →
      ((∀ c : Contents, ¬ WritesPadded text.toList c.json) ∨
        ∃ value, WritesPadded text.toList value ∧ Unfit value) →
      ∃ problem, first = (.error (.parse path problem), { path }) ∧
        answers = ids.map fun _ => .bytes (.error (.parse path problem)) := by
  intro first answers
  refine ⟨fun c => ?_, fun c loaded => ?_, ?_⟩
  · rw [← load_eq_ok_iff read]
    constructor
    · intro loaded
      exact load_eq_ok_of_contents path s (congrArg Prod.fst loaded)
    · intro loads
      exact contents_of_loaded path s loads
  · exact gets_of_loaded mapping path s ids (load_eq_ok_of_contents path s loaded)
  · rintro text rfl bad
    have unwritten : ∀ c : Contents, ¬ WritesPadded text.toList c.json := by
      rcases bad with unwritten | ⟨value, writes, unfit⟩
      · exact unwritten
      · exact fun c writesEntries => unfit.ne_json c (writes.unique writesEntries)
    have failed := (Loads.malformed (.text read) unwritten).load_eq
    exact ⟨_, contents_of_failed path s failed, gets_of_failed mapping path s ids failed⟩

end

open Json (braced quoted written)

def repeatedEntries : Contents :=
  [("a", "1"), ("a", "2"), ("", "3")]

def numbered : List Char :=
  ['\\', 'u', '0', '0', '6', '1']

def repeatedFile : List Char :=
  braced (quoted numbered ++ ':' :: quoted ['1'] ++ ',' ::
    (written "a" (quoted ['2']) ++ ',' :: written "" (quoted ['3'])))

def repeatedScene : Scene where
  files :=
    { working := ["work"]
      nodes := [(["run"], .directory),
        (["run", "secrets"], .file (String.ofList repeatedFile).toUTF8)] }

theorem writes_repeatedFile : WritesPadded repeatedFile repeatedEntries.json := by
  have digits : Json.Hex4 ['0', '0', '6', '1'] 'a'.toNat :=
    .digits (i := 0) (j := 0) (k := 6) (l := 1) (.inl rfl) (.inl rfl) (.inl rfl) (.inl rfl)
  have name : Json.SpellsText numbered "a".toList := .cons (.unit digits) .nil
  have one : Writes (quoted ['1']) (.string "1") :=
    Json.writes_quoted (Json.spellsText_of_plain (by decide))
  have two : Writes (quoted ['2']) (.string "2") :=
    Json.writes_quoted (Json.spellsText_of_plain (by decide))
  have three : Writes (quoted ['3']) (.string "3") :=
    Json.writes_quoted (Json.spellsText_of_plain (by decide))
  have first : WritesMember (quoted numbered ++ ':' :: quoted ['1']) ("a", .string "1") := by
    simpa [quoted] using
      WritesMember.pair Json.blank_nil name Json.blank_nil (Json.writesPadded_of_writes one)
  have second : WritesMember (written "a" (quoted ['2'])) ("a", .string "2") :=
    Json.writesMember_written (by decide) two
  have third : WritesMember (written "" (quoted ['3'])) ("", .string "3") :=
    Json.writesMember_written (by decide) three
  exact Json.writesPadded_of_writes (.members (.more first (.more second (.last third))))

theorem whole_or_nothing_repeated :
    repeatedScene.files.read "/run/secrets" = .ok (String.ofList repeatedFile).toUTF8 ∧
      (((holding .byId "/run/secrets" none).answers (["a", "", "b"].map .get)).run repeatedScene).1.1 =
        [.bytes (.ok "2".toUTF8), .bytes (.ok "3".toUTF8),
          .bytes (.error (.notFound "Key 'b' not in '/run/secrets'"))] := by
  have read :
      repeatedScene.files.read "/run/secrets" = .ok (String.ofList repeatedFile).toUTF8 := by
    decide +kernel
  obtain ⟨loads, gets, -⟩ :=
    whole_or_nothing .byId "/run/secrets" repeatedScene _ read ["a", "", "b"]
  have loaded := (loads repeatedEntries).2 ⟨_, rfl, by simpa using writes_repeatedFile⟩
  have gets := gets repeatedEntries (congrArg Prod.fst loaded)
  simp only [Contents.finds_iff, exists_eq_right, List.forall₂_cons_left_iff,
    List.forall₂_nil_left_iff, locate_byId] at gets
  obtain ⟨_, _, rfl, ⟨_, _, rfl, ⟨_, _, rfl, rfl, rfl⟩, rfl⟩, answers_eq⟩ := gets
  exact ⟨read, answers_eq.trans rfl⟩

end SecretResolver.SecretsFile
