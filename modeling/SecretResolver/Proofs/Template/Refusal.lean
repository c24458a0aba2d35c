import SecretResolver.Proofs.Template.Compile
import SecretResolver.Proofs.Text.Blanks

set_option autoImplicit false

namespace SecretResolver.Template

structure Lead where
  stretches : List Stretch
  literal : List Char
  no_opening : ¬opening <:+: literal
  no_brace_last : literal.getLast? ≠ some '{'

def Lead.text (lead : Lead) : List Char :=
  lead.stretches.flatMap Stretch.text ++ lead.literal

inductive Spoiled : List Char → String → Prop where
  | oneBrace {body : List Char} {c : Char} (noBrace : '}' ∉ body) (apart : c ≠ '}') :
      Spoiled (opening ++ body ++ ['}', c]) "unclosed action"
  | empty {body : List Char} (blank : ∀ c ∈ body, Text.isBlank c) :
      Spoiled (opening ++ body ++ closing) "empty action"
  | unsupported {before middle after : List Char} (beforeBlank : ∀ c ∈ before, Text.isBlank c)
      (afterBlank : ∀ c ∈ after, Text.isBlank c) (unpadded : Text.Unpadded middle)
      (nonempty : middle ≠ []) (other : middle ≠ idName) (noBrace : '}' ∉ middle) :
      Spoiled (opening ++ (before ++ middle ++ after) ++ closing)
        s!"unsupported action '{String.ofList middle}', only \x7b\x7b .ID \x7d\x7d is allowed"

inductive Misopened : List Char → String → Prop where
  | noBrace {body : List Char} (noBrace : '}' ∉ body) :
      Misopened (opening ++ body) "unclosed action"
  | lastBrace {body : List Char} (noBrace : '}' ∉ body) :
      Misopened (opening ++ body ++ ['}']) "unclosed action"
  | spoiled {span : List Char} {reason : String} (spoiled : Spoiled span reason)
      (after : List Char) : Misopened (span ++ after) reason

inductive LeftmostFault : List Char → String → Prop where
  | noBraces {cs : List Char} (noOpening : ¬opening <:+: cs) :
      LeftmostFault cs "mapping must contain \x7b\x7b .ID \x7d\x7d"
  | misopened (lead : Lead) {rest : List Char} {reason : String}
      (misopened : Misopened rest reason) : LeftmostFault (lead.text ++ rest) reason

section

variable {cs body rest : List Char} {fault : Fault} {reason : String}

theorem splitAction_of_notMem (noBrace : '}' ∉ cs) : splitAction cs = none := by
  cases split : splitAction cs with
  | none => rfl
  | some parts =>
    obtain ⟨body, rest⟩ := parts
    obtain ⟨rfl, -⟩ := eq_append_of_splitAction split
    exact absurd noBrace (by simp)

theorem splitAction_of_oneBrace (noBrace : '}' ∉ body) (apart : rest.head? ≠ some '}') :
    splitAction (body ++ '}' :: rest) = none := by
  induction body with
  | nil =>
    rw [List.nil_append, splitAction, if_pos rfl]
    rintro rest' - rfl
    exact apart rfl
  | cons c cs ih =>
    simp only [List.mem_cons, not_or] at noBrace
    rw [List.cons_append, splitAction, if_neg (Ne.symm noBrace.1), ih noBrace.2]
    · rfl
    · rintro _ rfl
      exact absurd rfl noBrace.1

theorem scan_of_unclosed (unclosed : splitAction cs = none) :
    scan (opening ++ cs) = .error .unclosed := by
  change scan ('{' :: '{' :: cs) = _
  rw [scan]
  split
  · rfl
  · next some => cases unclosed.symm.trans some

theorem scan_of_refused (noBrace : '}' ∉ body)
    (refused : checkAction (Text.trim body) = .error fault) (rest : List Char) :
    scan (opening ++ body ++ closing ++ rest) = .error fault := by
  rw [List.append_assoc, List.append_assoc]
  change scan ('{' :: '{' :: (body ++ '}' :: '}' :: rest)) = _
  have closed := splitAction_append rest noBrace
  rw [scan]
  split
  · next none => cases closed.symm.trans none
  · next some =>
    cases closed.symm.trans some
    rw [refused]

theorem checkAction_of_other (nonempty : body ≠ []) (other : body ≠ idName) :
    checkAction body = .error (.unsupported (String.ofList body)) := by
  have other : ¬body = ['.', 'I', 'D'] := other
  rw [checkAction, if_neg other, if_neg nonempty]

theorem Spoiled.exists_fault {span : List Char} (spoiled : Spoiled span reason)
    (after : List Char) :
    ∃ fault, scan (span ++ after) = .error fault ∧ fault.reason = reason := by
  cases spoiled with
  | @oneBrace body c noBrace apart =>
    refine ⟨.unclosed, ?_, rfl⟩
    have split : splitAction (body ++ '}' :: c :: after) = none :=
      splitAction_of_oneBrace noBrace (by simpa using apart)
    rw [← scan_of_unclosed split]
    simp
  | @empty body blank =>
    refine ⟨.emptyAction, ?_, rfl⟩
    have noBrace : '}' ∉ body := fun mem => blank_ne_brace (blank _ mem) rfl
    apply scan_of_refused noBrace
    rw [Text.trim_eq_nil_iff.2 blank]
    rfl
  | @unsupported before middle rest beforeBlank afterBlank unpadded nonempty other noBrace =>
    refine ⟨.unsupported (String.ofList middle), ?_, rfl⟩
    have bodyNoBrace : '}' ∉ before ++ middle ++ rest := by
      simp only [List.mem_append, not_or]
      exact ⟨⟨fun mem => blank_ne_brace (beforeBlank _ mem) rfl, noBrace⟩,
        fun mem => blank_ne_brace (afterBlank _ mem) rfl⟩
    apply scan_of_refused bodyNoBrace
    rw [Text.trim_eq_iff.2 ⟨unpadded, before, rest, beforeBlank, afterBlank, rfl⟩]
    exact checkAction_of_other nonempty other

theorem Misopened.exists_fault (misopened : Misopened rest reason) :
    ∃ fault, scan rest = .error fault ∧ fault.reason = reason := by
  cases misopened with
  | noBrace noBrace =>
    exact ⟨.unclosed, scan_of_unclosed (splitAction_of_notMem noBrace), rfl⟩
  | @lastBrace body noBrace =>
    refine ⟨.unclosed, ?_, rfl⟩
    rw [List.append_assoc]
    exact scan_of_unclosed (splitAction_of_oneBrace noBrace (by simp))
  | spoiled spoiled after => exact spoiled.exists_fault after

theorem Lead.scan_text_append (lead : Lead) (failed : scan rest = .error fault) :
    scan (lead.text ++ rest) = .error fault := by
  rw [Lead.text, List.append_assoc, scan_stretches_append, scan_literal_append lead.no_opening
    (fun last => absurd last lead.no_brace_last), failed]
  rfl

end

section

variable {source reason : String} {fault : Fault} {failure : Failure}

theorem compile_of_parse_error (failed : parse source.toList = .error fault) :
    compile source = .error fault := by
  unfold compile
  split
  · next same => exact congrArg Except.error (Except.error.inj (same.symm.trans failed))
  · next parsed => cases failed.symm.trans parsed

theorem compile_of_scan_error (failed : scan source.toList = .error fault) :
    compile source = .error fault := by
  apply compile_of_parse_error
  rw [parse_eq_scan, failed]
  rfl

theorem compile_of_noOpening (noOpening : ¬opening <:+: source.toList) :
    compile source = .error .noAction := by
  apply compile_of_parse_error
  have noAction : .id ∉ literalPieces source.toList := by
    unfold literalPieces
    split <;> simp
  rw [parse_eq_scan, scan_literal noOpening]
  exact if_neg noAction

theorem LeftmostFault.compiled_eq (leftmost : LeftmostFault source.toList reason) :
    compiled source = .error (.mapping source reason) := by
  generalize cs_eq : source.toList = cs at leftmost
  cases leftmost with
  | noBraces noOpening =>
    rw [compiled, compile_of_noOpening (cs_eq ▸ noOpening)]
    rfl
  | misopened lead misopened =>
    obtain ⟨fault, failed, rfl⟩ := misopened.exists_fault
    rw [compiled, compile_of_scan_error (cs_eq ▸ lead.scan_text_append failed)]
    rfl

end

section

variable {cs rest : List Char} {reason : String}

theorem Misopened.head? (misopened : Misopened rest reason) : rest.head? = some '{' := by
  cases misopened with
  | noBrace | lastBrace => rfl
  | spoiled spoiled after => cases spoiled <;> rfl

theorem misopened_of_unclosed (unclosed : splitAction cs = none) :
    Misopened (opening ++ cs) "unclosed action" := by
  by_cases brace : '}' ∈ cs
  · obtain ⟨body, tail, rfl, noBrace⟩ := List.eq_append_cons_of_mem brace
    rw [← List.append_assoc]
    cases tail with
    | nil => exact .lastBrace noBrace
    | cons c after =>
      have apart : c ≠ '}' := by
        rintro rfl
        cases (splitAction_append after noBrace).symm.trans unclosed
      have spoiled : Spoiled (opening ++ body ++ ['}', c]) "unclosed action" :=
        .oneBrace noBrace apart
      simpa using Misopened.spoiled spoiled after
  · exact .noBrace brace

theorem exists_misopened_of_refused {body : List Char} {fault : Fault} (noBrace : '}' ∉ body)
    (refused : checkAction (Text.trim body) = .error fault) (after : List Char) :
    ∃ reason, Misopened (opening ++ body ++ closing ++ after) reason := by
  have other : Text.trim body ≠ idName := by
    intro same
    cases (checkAction_eq_ok_iff.2 same).symm.trans refused
  by_cases empty : Text.trim body = []
  · exact ⟨_, .spoiled (.empty (Text.trim_eq_nil_iff.1 empty)) after⟩
  · obtain ⟨before, behind, beforeBlank, behindBlank, body_eq⟩ :=
      Text.exists_blanks_around_trim body
    have noBrace : '}' ∉ Text.trim body := by
      intro mem
      apply noBrace
      rw [body_eq]
      simp [mem]
    have spoiled := Spoiled.unsupported beforeBlank behindBlank (Text.unpadded_trim body) empty
      other noBrace
    rw [← body_eq] at spoiled
    exact ⟨_, .spoiled spoiled after⟩

theorem Stretch.getLast?_text (s : Stretch) : s.text.getLast? = some '}' := by
  obtain ⟨body, -, -, action_eq⟩ := isAction_iff.1 s.isAction
  simp [Stretch.text, action_eq, closing]

theorem getLast?_stretches (xs : List Stretch) :
    (xs.flatMap Stretch.text).getLast? ≠ some '{' := by
  induction xs with
  | nil => simp
  | cons s xs ih =>
    rw [List.flatMap_cons, List.getLast?_append, s.getLast?_text]
    cases last : (xs.flatMap Stretch.text).getLast? with
    | none => simp
    | some c => simpa [last] using ih

theorem Lead.getLast?_text (lead : Lead) : lead.text.getLast? ≠ some '{' := by
  rw [Lead.text, List.getLast?_append]
  cases last : lead.literal.getLast? with
  | none => simpa using getLast?_stretches lead.stretches
  | some c => simpa [last] using lead.no_brace_last

theorem Lead.exists_cons (lead : Lead) {c : Char} (head : rest.head? = some '{')
    (apart : ¬(c = '{' ∧ (lead.text ++ rest).head? = some '{')) :
    ∃ lead' : Lead, lead'.text = c :: lead.text := by
  have textApart : ¬(c = '{' ∧ lead.text.head? = some '{') := by
    rintro ⟨brace, first⟩
    exact apart ⟨brace, by rw [List.head?_append, first, Option.some_or]⟩
  obtain ⟨ys, y, noOpening, text_eq⟩ := exists_stretches_cons lead.no_opening textApart
  have noBraceLast : y.getLast? ≠ some '{' := by
    intro last
    have whole : (c :: lead.text).getLast? = some '{' := by
      rw [Lead.text, text_eq, List.getLast?_append, last, Option.some_or]
    rw [List.getLast?_cons] at whole
    cases before : lead.text.getLast? with
    | some d =>
      rw [before] at whole
      exact lead.getLast?_text (before.trans whole)
    | none =>
      rw [before] at whole
      rw [List.getLast?_eq_none_iff.1 before] at apart
      exact apart ⟨Option.some.inj whole, head⟩
  exact ⟨⟨ys, y, noOpening, noBraceLast⟩, text_eq.symm⟩

theorem eq_error_of_map {ε α β : Type} {f : α → β} {e : Except ε α} {fault : ε}
    (failed : e.map f = .error fault) : e = .error fault := by
  cases e with
  | error fault' => exact congrArg Except.error (Except.error.inj failed)
  | ok a => cases failed

theorem exists_misopened_of_scan {fault : Fault} (failed : scan cs = .error fault) :
    ∃ (lead : Lead) (rest : List Char) (reason : String),
      cs = lead.text ++ rest ∧ Misopened rest reason := by
  let bare : Lead := ⟨[], [], by decide, by decide⟩
  fun_induction scan cs with
  | case1 => cases failed
  | case2 cs unclosed => exact ⟨bare, _, _, rfl, misopened_of_unclosed unclosed⟩
  | case3 cs body after split fault' refused =>
    obtain ⟨rfl, noBrace⟩ := eq_append_of_splitAction split
    obtain ⟨reason, misopened⟩ := exists_misopened_of_refused noBrace refused after
    exact ⟨bare, _, reason, by simp [bare, Lead.text, opening, closing], misopened⟩
  | case4 cs body after split checked ih =>
    obtain ⟨rfl, noBrace⟩ := eq_append_of_splitAction split
    have isAction : IsAction (opening ++ body ++ closing) :=
      isAction_iff.2 ⟨body, noBrace, checkAction_eq_ok_iff.1 checked, rfl⟩
    obtain ⟨lead, rest, reason, after_eq, misopened⟩ := ih (eq_error_of_map failed)
    let first : Stretch := ⟨[], opening ++ body ++ closing, by decide, by decide, isAction⟩
    refine ⟨{ lead with stretches := first :: lead.stretches }, rest, reason, ?_, misopened⟩
    rw [after_eq]
    simp [first, Lead.text, Stretch.text, opening, closing]
  | case5 c cs other ih =>
    obtain ⟨lead, rest, reason, rfl, misopened⟩ := ih (eq_error_of_map failed)
    have apart : ¬(c = '{' ∧ (lead.text ++ rest).head? = some '{') := by
      rintro ⟨brace, head⟩
      obtain ⟨tail, text_eq⟩ := List.head?_eq_some_iff.1 head
      exact other tail brace text_eq
    obtain ⟨lead', text_eq⟩ := lead.exists_cons misopened.head? apart
    exact ⟨lead', rest, reason, by rw [text_eq, List.cons_append], misopened⟩

theorem exists_leftmostFault {source : String} {failure : Failure}
    (refused : compiled source = .error failure) :
    ∃ reason, LeftmostFault source.toList reason := by
  cases scanned : scan source.toList with
  | error fault =>
    obtain ⟨lead, rest, reason, text_eq, misopened⟩ := exists_misopened_of_scan scanned
    exact ⟨reason, text_eq ▸ .misopened lead misopened⟩
  | ok pieces =>
    obtain ⟨xs, last, noOpening, text_eq⟩ := exists_stretches_of_scan scanned
    cases xs with
    | nil =>
      rw [text_eq]
      exact ⟨_, .noBraces noOpening⟩
    | cons s xs =>
      -- with an action in it and nothing to refuse, the template compiles
      obtain ⟨t, compiles⟩ := exists_compile_iff.2
        ⟨⟨s :: xs, last, List.cons_ne_nil _ _, noOpening⟩, text_eq.symm⟩
      rw [compiled, compiles] at refused
      cases refused

end

theorem refused_at_leftmost_fault :
    (∀ source failure, compiled source = .error failure ↔
      ∃ reason, failure = .mapping source reason ∧ LeftmostFault source.toList reason) ∧
      ∀ (lead : Lead) (span : List Char) (reason : String), Spoiled span reason → ∀ after,
        compiled (String.ofList (lead.text ++ span ++ after)) =
          .error (.mapping (String.ofList (lead.text ++ span ++ after)) reason) := by
  constructor
  · intro source failure
    constructor
    · intro refused
      obtain ⟨reason, leftmost⟩ := exists_leftmostFault refused
      rw [leftmost.compiled_eq] at refused
      exact ⟨reason, (Except.error.inj refused).symm, leftmost⟩
    · rintro ⟨reason, rfl, leftmost⟩
      exact leftmost.compiled_eq
  · intro lead span reason spoiled after
    apply LeftmostFault.compiled_eq
    rw [String.toList_ofList, List.append_assoc]
    exact .misopened lead (.spoiled spoiled after)

def slashLead : Lead where
  stretches := bracedDecomposition.stretches
  literal := ['/']
  no_opening := by decide
  no_brace_last := by decide

theorem refused_at_leftmost_fault_braces :
    Spoiled (opening ++ ([' '] ++ ['.', 'I', 'D', ' ', '{', '{'] ++ []) ++ closing)
        "unsupported action '.ID \x7b\x7b', only \x7b\x7b .ID \x7d\x7d is allowed" ∧
      compiled "a\x7b/\x7b\x7b .ID\x7d\x7d/\x7b\x7b .ID \x7b\x7b\x7d\x7d\x7b\x7b .ID" =
        .error (.mapping "a\x7b/\x7b\x7b .ID\x7d\x7d/\x7b\x7b .ID \x7b\x7b\x7d\x7d\x7b\x7b .ID"
          "unsupported action '.ID \x7b\x7b', only \x7b\x7b .ID \x7d\x7d is allowed") ∧
      compiled "\x7b\x7b \x7d \x7b\x7b .ID \x7d\x7d" =
        .error (.mapping "\x7b\x7b \x7d \x7b\x7b .ID \x7d\x7d" "unclosed action") := by
  obtain ⟨leftmost, unchanged⟩ := refused_at_leftmost_fault
  have unpadded : Text.Unpadded ['.', 'I', 'D', ' ', '{', '{'] := by
    constructor <;> rintro _ ⟨⟩ <;> rfl
  have spoiled : Spoiled (opening ++ ([' '] ++ ['.', 'I', 'D', ' ', '{', '{'] ++ []) ++ closing)
      "unsupported action '.ID \x7b\x7b', only \x7b\x7b .ID \x7d\x7d is allowed" :=
    .unsupported (by simp [Text.isBlank]) (by simp) unpadded (by simp) (by decide) (by decide)
  refine ⟨spoiled, unchanged slashLead _ _ spoiled ['{', '{', ' ', '.', 'I', 'D'], ?_⟩
  have apart : Spoiled (opening ++ [' '] ++ ['}', ' ']) "unclosed action" :=
    .oneBrace (by decide) (by decide)
  exact (leftmost _ _).2 ⟨_, rfl, .misopened ⟨[], [], by decide, by decide⟩
    (.spoiled apart ['{', '{', ' ', '.', 'I', 'D', ' ', '}', '}'])⟩

end SecretResolver.Template
