import SecretResolver.Proofs.Text.Blanks
import SecretResolver.Template

set_option autoImplicit false

namespace SecretResolver.Template

theorem blank_ne_brace {c : Char} (blank : Text.isBlank c) : c ≠ '}' := by
  rintro rfl
  cases blank

def splitAction : List Char → Option (List Char × List Char)
  | [] => none
  | '}' :: '}' :: rest => some ([], rest)
  | c :: cs => if c = '}' then none else (splitAction cs).map fun (body, rest) => (c :: body, rest)

theorem splitAction_append {body : List Char} (rest : List Char) (h : '}' ∉ body) :
    splitAction (body ++ '}' :: '}' :: rest) = some (body, rest) := by
  induction body with
  | nil => rfl
  | cons c cs ih =>
    simp only [List.mem_cons, not_or] at h
    rw [List.cons_append, splitAction, if_neg (Ne.symm h.1), ih h.2]
    · rfl
    · rintro _ rfl
      exact absurd rfl h.1

theorem eq_append_of_splitAction {cs body rest : List Char}
    (h : splitAction cs = some (body, rest)) :
    cs = body ++ '}' :: '}' :: rest ∧ '}' ∉ body := by
  induction cs generalizing body with
  | nil => simp [splitAction] at h
  | cons c cs ih =>
    unfold splitAction at h
    split at h
    · cases h
    · next heq =>
      cases heq
      simp_all
    · next heq =>
      cases heq
      split at h
      · cases h
      · obtain ⟨⟨body', rest'⟩, hs, he⟩ := Option.map_eq_some_iff.1 h
        cases he
        obtain ⟨rfl, hb⟩ := ih hs
        simp_all [eq_comm]

theorem length_lt_of_splitAction {cs body rest : List Char}
    (h : splitAction cs = some (body, rest)) : rest.length < cs.length := by
  rw [(eq_append_of_splitAction h).1]
  simp
  omega

def addChar (c : Char) : List Piece → List Piece
  | .literal text :: pieces => .literal (c :: text) :: pieces
  | pieces => .literal [c] :: pieces

-- one pass from the left, which ends at the first braces that open no action
def scan : List Char → Except Fault (List Piece)
  | [] => .ok []
  | '{' :: '{' :: cs =>
    match _h : splitAction cs with
    | none => .error .unclosed
    | some (body, rest) =>
      match checkAction (Text.trim body) with
      | .error fault => .error fault
      | .ok () => (scan rest).map (.id :: ·)
  | c :: cs => (scan cs).map (addChar c)
termination_by cs => cs.length
decreasing_by
  · have := length_lt_of_splitAction _h
    simp only [List.length_cons]
    omega
  · simp

section

variable {α : Type} {p : Char → Bool} {next : List Char → Option α} {cs passed rest : List Char}
  {found : α}

theorem many_of_longest (all : ∀ c ∈ passed, p c) (stop : ∀ c ∈ rest.head?, p c = false)
    (goesOn : next rest = some found) : many p next (passed ++ rest) = some found := by
  induction passed with
  | nil =>
    cases rest with
    | nil => exact goesOn
    | cons c cs => simp [many, stop c rfl, goesOn]
  | cons c cs ih =>
    obtain ⟨pass, all⟩ := List.forall_mem_cons.1 all
    rw [List.cons_append, many, if_pos pass, ih all]

-- Nothing shorter leads anywhere.
theorem few_of_shortest (all : ∀ c ∈ passed, p c)
    (shortest : ∀ before after, passed = before ++ after → after ≠ [] → next (after ++ rest) = none)
    (goesOn : next rest = some found) : few p next (passed ++ rest) = some (passed, found) := by
  induction passed with
  | nil => cases rest <;> simp [few, goesOn]
  | cons c cs ih =>
    obtain ⟨pass, all⟩ := List.forall_mem_cons.1 all
    have stuck : next (c :: (cs ++ rest)) = none := shortest [] (c :: cs) rfl (by simp)
    have later := ih all fun before after cs_eq => shortest (c :: before) after (by rw [cs_eq]; rfl)
    rw [List.cons_append, few, stuck]
    simp only [if_pos pass, later, Option.map_some]

end

section

variable {cs body rest blanks : List Char}

theorem many_closing (blank : ∀ c ∈ blanks, Text.isBlank c) (rest : List Char) :
    many Text.isBlank matchClosing (blanks ++ '}' :: '}' :: rest) = some rest := by
  refine many_of_longest blank ?_ rfl
  rintro _ ⟨⟩
  rfl

theorem many_closing_of_last {c : Char} (noBrace : '}' ∉ body) (last : body.getLast? = some c)
    (notBlank : Text.isBlank c = false) (blank : ∀ c ∈ blanks, Text.isBlank c) :
    many Text.isBlank matchClosing (body ++ (blanks ++ '}' :: '}' :: rest)) = none := by
  cases matched : many Text.isBlank matchClosing (body ++ (blanks ++ '}' :: '}' :: rest)) with
  | none => rfl
  | some found =>
    obtain ⟨passed, closed, same, allBlank, closes⟩ := many_eq_some matched
    unfold matchClosing at closes
    split at closes
    · next after =>
      have noBlankBrace : '}' ∉ blanks := fun mem => blank_ne_brace (blank _ mem) rfl
      have noPassedBrace : '}' ∉ passed := fun mem => blank_ne_brace (allBlank _ mem) rfl
      have notWithin : '}' ∉ body ++ blanks := by simp [noBrace, noBlankBrace]
      have split := splitAction_append rest notWithin
      rw [List.append_assoc, same, splitAction_append after noPassedBrace] at split
      obtain rfl := (Prod.mk.inj (Option.some.inj split)).1
      have mem : c ∈ body ++ blanks := List.mem_append_left _ (List.mem_of_getLast? last)
      rw [allBlank c mem] at notBlank
      cases notBlank
    · cases closes

theorem matchAction_append (noBrace : '}' ∉ body) (rest : List Char) :
    matchAction ('{' :: '{' :: (body ++ '}' :: '}' :: rest)) = some (Text.trim body, rest) := by
  obtain ⟨before, after, beforeBlank, afterBlank, body_eq⟩ := Text.exists_blanks_around_trim body
  rw [matchAction]
  by_cases empty : Text.trim body = []
  · have blank : ∀ c ∈ body, Text.isBlank c := Text.trim_eq_nil_iff.1 empty
    refine many_of_longest blank ?_ ?_
    · rintro _ ⟨⟩
      rfl
    · rw [empty]
      have closes : many Text.isBlank matchClosing ('}' :: '}' :: rest) = some rest :=
        many_closing (List.forall_mem_nil _) rest
      rw [few, closes]
  · have unpadded := Text.unpadded_trim body
    have noBrace : '}' ∉ Text.trim body := fun mem => noBrace (body_eq ▸ by simp [mem])
    have head : ∀ c ∈ (Text.trim body ++ (after ++ '}' :: '}' :: rest)).head?,
        Text.isBlank c = false := by
      rw [List.head?_append_of_ne_nil _ empty]
      exact unpadded.head
    have whole : body ++ '}' :: '}' :: rest =
        before ++ (Text.trim body ++ (after ++ '}' :: '}' :: rest)) := by
      conv_lhs => rw [body_eq]
      simp
    rw [whole]
    refine many_of_longest beforeBlank head (few_of_shortest ?_ ?_ (many_closing afterBlank rest))
    · intro c mem
      simpa using fun same : c = '}' => noBrace (same ▸ mem)
    · intro shorter longer trim_eq nonempty
      have last := List.getLast?_eq_some_getLast nonempty
      have last' : longer.getLast nonempty ∈ (Text.trim body).getLast? := by
        rw [trim_eq, List.getLast?_append, last]
        rfl
      exact many_closing_of_last (fun mem => noBrace (trim_eq ▸ by simp [mem])) last
        (unpadded.last _ last') afterBlank

theorem matchAction_opening (cs : List Char) : matchAction ('{' :: '{' :: cs) =
    (splitAction cs).map fun (body, rest) => (Text.trim body, rest) := by
  cases split : splitAction cs with
  | some parts =>
    obtain ⟨rfl, noBrace⟩ := eq_append_of_splitAction split
    exact matchAction_append noBrace _
  | none =>
    cases matched : matchAction ('{' :: '{' :: cs) with
    | none => rfl
    | some parts =>
      obtain ⟨before, after, cs_eq, beforeBlank, afterBlank, noBrace⟩ :=
        eq_append_of_matchAction matched
      have notBefore : '}' ∉ before := fun mem => blank_ne_brace (beforeBlank _ mem) rfl
      have notAfter : '}' ∉ after := fun mem => blank_ne_brace (afterBlank _ mem) rfl
      have notWithin : '}' ∉ before ++ (parts.1 ++ after) := by simp [notBefore, notAfter, noBrace]
      have closed := splitAction_append parts.2 notWithin
      simp only [List.cons.injEq, true_and] at cs_eq
      rw [cs_eq] at split
      simp only [List.append_assoc, split] at closed
      cases closed

end

section

variable {c : Char} {cs body rest text : List Char} {found : Match}

def Parted (c : Char) (cs : List Char) : Prop :=
  ¬(c = '{' ∧ cs.head? = some '{')

theorem matchAction_of_parted (parted : Parted c cs) : matchAction (c :: cs) = none := by
  unfold matchAction
  split
  · next same =>
    cases same
    exact absurd ⟨rfl, rfl⟩ parted
  · rfl

theorem search_of_matchAction (matched : matchAction cs = some (body, rest)) :
    search cs = some { before := [], body, rest } := by
  cases cs with
  | nil => cases matched
  | cons c cs => simp only [search, matched]

theorem search_cons (unmatched : matchAction (c :: cs) = none) :
    search (c :: cs) = (search cs).map fun found => { found with before := c :: found.before } := by
  simp only [search, unmatched]

theorem before_prefix_of_search (searched : search cs = some found) : found.before <+: cs := by
  induction cs generalizing found with
  | nil => cases searched
  | cons c cs ih =>
    unfold search at searched
    split at searched
    · cases searched
      exact List.nil_prefix
    · obtain ⟨later, searched', rfl⟩ := Option.map_eq_some_iff.1 searched
      exact List.cons_prefix_cons.2 ⟨rfl, @ih later searched'⟩

-- What the search passes over when the leftmost braces are not closed starts with them.
theorem hasOpening_of_unclosed (unclosed : splitAction cs = none)
    (searched : search ('{' :: '{' :: cs) = some found) : hasOpening found.before = true := by
  have second : matchAction ('{' :: cs) = none := by
    cases cs with
    | nil => rfl
    | cons c cs =>
      by_cases brace : c = '{'
      · subst brace
        have unclosed : splitAction cs = none := by simpa [splitAction] using unclosed
        rw [matchAction_opening, unclosed]
        rfl
      · exact matchAction_of_parted fun both => brace (Option.some.inj both.2)
  rw [search_cons (by rw [matchAction_opening, unclosed]; rfl), search_cons second,
    Option.map_map] at searched
  obtain ⟨_, -, rfl⟩ := Option.map_eq_some_iff.1 searched
  rfl

theorem hasOpening_cons (parted : Parted c text) : hasOpening (c :: text) = hasOpening text := by
  rw [hasOpening]
  rintro _ rfl rfl
  exact parted ⟨rfl, rfl⟩

def literalPieces (text : List Char) : List Piece :=
  if text = [] then [] else [.literal text]

theorem pushLiteral_eq (pieces : List Piece) (text : List Char) : pushLiteral pieces text =
    if hasOpening text then .error .unclosed else .ok (pieces ++ literalPieces text) := by
  unfold pushLiteral literalPieces
  split
  · rfl
  · split <;> simp

theorem parseFrom_eq_map (pieces : List Piece) (actions : Nat) (cs : List Char) :
    parseFrom pieces actions cs =
      (parseFrom [] 0 cs).map fun (later, n) => (pieces ++ later, actions + n) := by
  induction size : cs.length using Nat.strong_induction_on generalizing pieces actions cs with
  | _ n ih =>
  rw [parseFrom, parseFrom.eq_def [] 0]
  split
  · simp only [pushLiteral_eq]
    split <;> simp [Except.map]
  · next found searched =>
    have shorter : found.rest.length < n := size ▸ length_rest_lt_of_search searched
    simp only [pushLiteral_eq]
    cases hasOpening found.before with
    | true => rfl
    | false =>
      cases checkAction found.body with
      | error fault => rfl
      | ok _ =>
        simp only [Bool.false_eq_true, if_false, bind, Except.bind]
        rw [ih _ shorter _ _ _ rfl, ih _ shorter _ (0 + 1) _ rfl]
        cases parseFrom [] 0 found.rest with
        | error fault => rfl
        | ok parsed => simp [Except.map, Nat.add_comm, Nat.add_left_comm]

theorem parseFrom_of_none (searched : search cs = none) : parseFrom [] 0 cs =
    if hasOpening cs then .error .unclosed else .ok (literalPieces cs, 0) := by
  rw [parseFrom]
  split
  · rw [pushLiteral_eq]
    split <;> rfl
  · next some => cases searched.symm.trans some

theorem parseFrom_of_some (searched : search cs = some found) : parseFrom [] 0 cs =
    if hasOpening found.before then .error .unclosed
    else (checkAction found.body).bind fun _ => (parseFrom [] 0 found.rest).map fun (later, n) =>
      (literalPieces found.before ++ .id :: later, n + 1) := by
  rw [parseFrom]
  split
  · next none => cases searched.symm.trans none
  · next same =>
    cases searched.symm.trans same
    rw [pushLiteral_eq]
    cases hasOpening found.before with
    | true => rfl
    | false =>
      cases checkAction found.body with
      | error fault => rfl
      | ok _ =>
        simp only [Bool.false_eq_true, if_false, bind, Except.bind]
        rw [parseFrom_eq_map]
        cases parseFrom [] 0 found.rest with
        | error fault => rfl
        | ok parsed => simp [Except.map, Nat.add_comm]

theorem addChar_literalPieces_append (c : Char) (text : List Char) (pieces : List Piece) :
    addChar c (literalPieces text ++ .id :: pieces) =
      literalPieces (c :: text) ++ .id :: pieces := by
  cases text <;> rfl

theorem addChar_literalPieces (c : Char) (text : List Char) :
    addChar c (literalPieces text) = literalPieces (c :: text) := by
  cases text <;> rfl

theorem count_addChar (c : Char) (pieces : List Piece) :
    (addChar c pieces).count .id = pieces.count .id := by
  unfold addChar
  split <;> simp

theorem parseFrom_cons (parted : Parted c cs) : parseFrom [] 0 (c :: cs) =
    (parseFrom [] 0 cs).map fun (pieces, n) => (addChar c pieces, n) := by
  have passed := search_cons (matchAction_of_parted parted)
  cases searched : search cs with
  | none =>
    rw [searched] at passed
    rw [parseFrom_of_none passed, parseFrom_of_none searched, hasOpening_cons parted]
    split
    · rfl
    · simp [Except.map, addChar_literalPieces]
  | some found =>
    rw [searched] at passed
    have partedBefore : Parted c found.before := by
      rintro ⟨brace, head⟩
      obtain ⟨after, rfl⟩ := before_prefix_of_search searched
      exact parted ⟨brace, by rw [List.head?_append, head]; rfl⟩
    rw [parseFrom_of_some passed, parseFrom_of_some searched, hasOpening_cons partedBefore]
    split
    · rfl
    · cases checkAction found.body with
      | error fault => rfl
      | ok _ =>
        simp only [Except.bind]
        cases parseFrom [] 0 found.rest with
        | error fault => rfl
        | ok parsed => simp [Except.map, addChar_literalPieces_append]

theorem parseFrom_eq_scan (cs : List Char) :
    parseFrom [] 0 cs = (scan cs).map fun pieces => (pieces, pieces.count .id) := by
  fun_induction scan cs with
  | case1 => rw [parseFrom_of_none rfl]; rfl
  | case2 cs unclosed =>
    cases searched : search ('{' :: '{' :: cs) with
    | none => rw [parseFrom_of_none searched]; rfl
    | some found =>
      rw [parseFrom_of_some searched, if_pos (hasOpening_of_unclosed unclosed searched)]
      rfl
  | case3 cs body rest split fault refused =>
    have matched : matchAction ('{' :: '{' :: cs) = some (Text.trim body, rest) := by
      rw [matchAction_opening, split]
      rfl
    rw [parseFrom_of_some (search_of_matchAction matched), refused]
    rfl
  | case4 cs body rest split checked ih =>
    have matched : matchAction ('{' :: '{' :: cs) = some (Text.trim body, rest) := by
      rw [matchAction_opening, split]
      rfl
    rw [parseFrom_of_some (search_of_matchAction matched), checked, ih]
    cases scan rest with
    | error fault => rfl
    | ok pieces => simp [Except.map, Except.bind, hasOpening, literalPieces]
  | case5 c cs other ih =>
    have parted : Parted c cs := by
      rintro ⟨brace, head⟩
      obtain ⟨tail, cs_eq⟩ := List.head?_eq_some_iff.1 head
      exact other tail brace cs_eq
    rw [parseFrom_cons parted, ih]
    cases scan cs with
    | error fault => rfl
    | ok pieces => simp [Except.map, count_addChar]

end

-- However late an action can be matched, an opening that was passed over is reported before it.
theorem parse_eq_scan (cs : List Char) : parse cs =
    (scan cs).bind fun pieces => if .id ∈ pieces then .ok pieces else .error .noAction := by
  rw [parse, parseFrom_eq_scan]
  cases scan cs with
  | error fault => rfl
  | ok pieces =>
    by_cases mem : .id ∈ pieces
    · simp [bind, Except.bind, Except.map, mem, List.count_eq_zero]
    · simp [bind, Except.bind, Except.map, mem, List.count_eq_zero]

theorem parse_eq_ok_iff {cs : List Char} {pieces : List Piece} :
    parse cs = .ok pieces ↔ scan cs = .ok pieces ∧ .id ∈ pieces := by
  rw [parse_eq_scan]
  cases scan cs with
  | error fault => simp [Except.bind]
  | ok scanned =>
    by_cases mem : .id ∈ scanned
    · simp only [Except.bind, mem, if_true, Except.ok.injEq]
      exact ⟨fun same => ⟨same, same ▸ mem⟩, And.left⟩
    · simp only [Except.bind, mem, if_false, Except.ok.injEq, reduceCtorEq, false_iff, not_and]
      rintro rfl
      exact mem

theorem scan_source (t : Template) : scan t.source.toList = .ok t.pieces :=
  (parse_eq_ok_iff.1 t.parse_source).1

theorem id_mem (t : Template) : .id ∈ t.pieces :=
  (parse_eq_ok_iff.1 t.parse_source).2

def ofScan (source : String) (pieces : List Piece) (scanned : scan source.toList = .ok pieces)
    (mem : .id ∈ pieces) : Template where
  source
  pieces
  parse_source := parse_eq_ok_iff.2 ⟨scanned, mem⟩

end SecretResolver.Template
