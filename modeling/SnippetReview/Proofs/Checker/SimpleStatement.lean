import SnippetReview.Proofs.Checker.SemicolonRepair
import SnippetReview.Proofs.Checker.Statement

/-!
Simple statements without a semicolon: the assignment to a name, and the call of one. An assignment
is reported unless its name begins like a word that is exempt. Behind the arguments of a call the
pattern asks for one more code point, so that of plain calls only those of the listed names are
reported.
-/

set_option autoImplicit false

namespace SnippetReview

open Text

private theorem Text.prefix_append_cons_iff {word name rest : Text} {c : CodePoint}
    (hc : c ∉ word) :
    word <+: name ++ c :: rest ↔ word <+: name := by
  constructor
  · intro h
    rcases List.prefix_or_prefix_of_prefix h (List.prefix_append name _) with hword | ⟨more, rfl⟩
    · exact hword
    · cases more with
      | nil => simp
      | cons d more =>
        rw [List.prefix_append_right_inj, List.cons_prefix_cons] at h
        exact absurd (by simp [h.1]) hc
  · exact fun h => h.trans (List.prefix_append _ _)

private theorem Text.startsWithAny_append_cons_eq_false_iff {words : List Text} {name rest : Text}
    {c : CodePoint} (hwords : ∀ word ∈ words, c ∉ word) :
    startsWithAny words (name ++ c :: rest) = false ↔ ∀ word ∈ words, ¬ word <+: name := by
  rw [startsWithAny, List.any_eq_false]
  refine forall₂_congr fun word hword => ?_
  rw [List.isPrefixOf_iff_prefix, prefix_append_cons_iff (hwords word hword)]

namespace Semicolon

structure IsIdentifier (name : Text) : Prop where
  head : ∃ first rest, name = first :: rest ∧
    (first.isAsciiLetter = true ∨ first = CodePoint.ofChar '_')
  rest : ∀ c ∈ name, c.isAsciiAlphanumeric = true ∨ c = CodePoint.ofChar '_'

def assignmentOf (name value : Text) : Text :=
  name ++ (Text.ofString " = " ++ value)

def callOf (name arguments : Text) : Text :=
  name ++ CodePoint.ofChar '(' :: (arguments ++ [CodePoint.ofChar ')'])

section Reported

variable {rules : List SourceRule} {style : Style} {skips : Text → Bool} {source line : Text}
  {number : Nat}

/-- A line is reported exactly if it lacks a semicolon and is not skipped. -/
private theorem mem_reportedLines_checkWith_iff
    (hother : ∀ rule ∈ rules, ∀ source, isReport (rule.report source) = false)
    (hnumber : 1 ≤ number) (hline : source.lines[number - 1]? = some line) :
    number ∈ reportedLines (checkWith rules style skips source) ↔
      skips line.trim = false ∧ style.lacksSemicolon line.trim = true := by
  have hnames : style.rule.NamesLine := fun _ _ _ => rfl
  have hreports := LineRule.ascendingReports_check skips hnames source
  rw [mem_reportedLines_iff]
  constructor
  · rintro ⟨d, hd, hreport, hplace⟩
    have hrule : d ∈ LineRule.check [style.rule] skips source := by
      refine (List.mem_append.mp hd).resolve_left fun hmem => ?_
      rw [isReport_of_mem_before hother hmem] at hreport
      cases hreport
    obtain ⟨number', line', -, hline', hkept, hfires, rfl⟩ := (hreports.mem_iff d).mp hrule
    have hsame : number' = number := by
      simpa [hnames line' line'.trim number'] using hplace
    rw [hsame, hline, Option.some.injEq] at hline'
    subst hline'
    exact ⟨hkept, hfires⟩
  · rintro ⟨hkept, hfires⟩
    refine ⟨style.rule.report line line.trim number, List.mem_append_right _ ?_,
      isReport_report .., by simp [hnames line line.trim number]⟩
    exact (hreports.mem_iff _).mpr ⟨number, line, hnumber, hline, hkept, hfires, rfl⟩

private theorem mem_reportedLines_c_iff (hnumber : 1 ≤ number)
    (hline : source.lines[number - 1]? = some line) :
    number ∈ reportedLines (C.check source) ↔ C.semicolons.lacksSemicolon line.trim = true := by
  refine (mem_reportedLines_checkWith_iff C.isReport_of_mem_sourceRules hnumber hline).trans ?_
  rw [and_iff_right_iff_imp]
  exact fun hlacks => C.skips_eq_false_of_isSpanned (C.spans_semicolons.isSpanned hlacks)

private theorem mem_reportedLines_java_iff (hnumber : 1 ≤ number)
    (hline : source.lines[number - 1]? = some line) :
    number ∈ reportedLines (Java.check source) ↔
      line.trim.startsWithAny ["import", "package"] = false ∧
        Java.semicolons.lacksSemicolon line.trim = true := by
  refine (mem_reportedLines_checkWith_iff Java.isReport_of_mem_sourceRules hnumber hline).trans ?_
  refine and_congr_left fun hlacks => ?_
  rw [Java.skips_eq_of_isSpanned (Java.spans_semicolons.isSpanned hlacks)]

end Reported

private theorem IsIdentifier.isWord {name : Text} (h : IsIdentifier name) : IsWord name := by
  obtain ⟨first, rest, rfl, -⟩ := h.head
  exact ⟨by simp, fun c hc => isWord_of_nameCharacter (h.rest c hc)⟩

private theorem matchesStart_assignmentStatement_assignmentOf {name value : Text} {last : CodePoint}
    (hname : IsIdentifier name) (hlast : last.isAsciiAlphanumeric = true)
    (hvalue : CodePoint.ofChar '\n' ∉ value) :
    assignmentStatement.matchesStart (assignmentOf name (value ++ [last])) = true := by
  have hvisible : ∀ c, (assignmentOf name (value ++ [last])).getLast? = some c →
      c.isBlank = false := by
    intro c hc
    rw [assignmentOf, ← List.append_assoc, ← List.append_assoc, List.getLast?_concat,
      Option.some.injEq] at hc
    rw [← hc]
    exact CodePoint.isBlank_eq_false_of_isWord (isWord_of_nameCharacter (Or.inl hlast))
  rw [matchesStart_assignmentStatement_iff hvisible]
  have hword := hname.isWord.2
  obtain ⟨first, rest, rfl, hfirst⟩ := hname.head
  refine ⟨first, rest, [CodePoint.ofChar ' '], CodePoint.ofChar ' ' :: value, last, ?_, hfirst,
    (List.forall_mem_cons.mp hword).2, by decide, ?_, ?_⟩
  · simp [assignmentOf, Text.ofString]
  · exact List.forall_mem_cons.mpr ⟨by decide, fun c => CodePoint.inLine_of_mem hvalue⟩
  · simp [CodePoint.endsExpression, hlast]

private theorem startsWithAny_assignmentOf_eq_false_iff {words : List Text} {name value : Text}
    (hwords : ∀ word ∈ words, CodePoint.ofChar ' ' ∉ word) :
    (assignmentOf name value).startsWithAny words = false ↔ ∀ word ∈ words, ¬ word <+: name := by
  have hblank : assignmentOf name value =
      name ++ CodePoint.ofChar ' ' :: (Text.ofString "= " ++ value) := by
    simp [assignmentOf, Text.ofString]
  rw [hblank, startsWithAny_append_cons_eq_false_iff hwords]

private theorem Style.Spans.lacksSemicolon_assignmentOf_iff {style : Style} (hspans : style.Spans)
    (hstyle : assignmentStatement ∈ style.statements) {line name value : Text} {last : CodePoint}
    (hname : IsIdentifier name) (hlast : last.isAsciiAlphanumeric = true)
    (hvalue : CodePoint.ofChar '\n' ∉ value)
    (htrim : line.trim = assignmentOf name (value ++ [last])) :
    style.lacksSemicolon line.trim = true ↔ ∀ word ∈ controlWords, ¬ word <+: name := by
  have hmatch : ∃ pattern ∈ style.statements, pattern.matchesStart line.trim = true :=
    ⟨assignmentStatement, hstyle,
      htrim ▸ matchesStart_assignmentStatement_assignmentOf hname hlast hvalue⟩
  rw [hspans.lacksSemicolon_iff, and_iff_right hmatch, htrim,
    startsWithAny_assignmentOf_eq_false_iff (by decide)]

private theorem not_prefix_of_listed : ∀ name ∈ [Text.ofString "printf", "scanf", "return"],
    ∀ word ∈ controlWords ++ [Text.ofString "import", "package"], ¬ word <+: name := by
  decide

private theorem isWord_open : (CodePoint.ofChar '(').isWord = false :=
  (CodePoint.isWord_of_ascii (by decide)).trans (by decide)

section Call

variable {name arguments : Text} (hname : IsWord name)

private theorem eq_of_callOf_eq_run {run tail : Text} {c : CodePoint} (hname : IsWord name)
    (hrun : ∀ a ∈ run, a.isWord = true) (hc : c.isWord = false)
    (h : callOf name arguments = run ++ c :: tail) :
    name = run ∧ CodePoint.ofChar '(' = c ∧ arguments ++ [CodePoint.ofChar ')'] = tail :=
  eq_of_run_append_cons hname.2 hrun isWord_open hc h

private theorem callOf_ne_run_gap {run gap tail : Text} (hname : IsWord name)
    (hrun : ∀ a ∈ run, a.isWord = true) (hne : gap ≠ []) (hgap : ∀ c ∈ gap, c.isBlank = true) :
    callOf name arguments ≠ run ++ (gap ++ tail) := by
  intro h
  obtain ⟨c, gap, rfl⟩ := List.exists_cons_of_ne_nil hne
  have hblank := hgap c List.mem_cons_self
  obtain ⟨-, rfl, -⟩ := eq_of_callOf_eq_run hname hrun
    (CodePoint.isWord_eq_false_of_isBlank hblank) h
  revert hblank
  decide

private theorem isBlank_last_callOf {c : CodePoint}
    (h : (callOf name arguments).getLast? = some c) :
    c.isBlank = false := by
  rw [callOf, ← List.cons_append, ← List.append_assoc, List.getLast?_concat,
    Option.some.injEq] at h
  rw [← h]
  decide

include hname

private theorem matchesStart_assignmentStatement_callOf :
    assignmentStatement.matchesStart (callOf name arguments) = false := by
  rw [Bool.eq_false_iff, ne_eq, matchesStart_assignmentStatement_iff fun c => isBlank_last_callOf]
  rintro ⟨first, rest, gap, value, last, h, hfirst, hrest, hgap, -, -⟩
  have hrun : ∀ a ∈ first :: rest, a.isWord = true :=
    List.forall_mem_cons.mpr ⟨isWord_of_nameStart hfirst, hrest⟩
  by_cases hne : gap = []
  · subst hne
    obtain ⟨-, hsign, -⟩ := eq_of_callOf_eq_run hname hrun
      ((CodePoint.isWord_of_ascii (by decide)).trans (by decide)) h
    revert hsign
    decide
  · exact callOf_ne_run_gap hname hrun hne hgap h

private theorem matchesStart_declaration_callOf {types : List Text}
    (htypes : ∀ type ∈ types, IsWord type) :
    (declaration types).matchesStart (callOf name arguments) = false := by
  rw [Bool.eq_false_iff, ne_eq, matchesStart_declaration_iff fun c => isBlank_last_callOf]
  rintro ⟨type, gap, value, last, h, htype, hne, hgap, -, -⟩
  exact callOf_ne_run_gap hname (htypes type htype).2 hne hgap h

/-- Behind the closing bracket of a call nothing is left for the code point that is asked for. -/
private theorem matchesStart_callStatement_callOf (harguments : CodePoint.ofChar ')' ∉ arguments) :
    callStatement.matchesStart (callOf name arguments) = false := by
  rw [Bool.eq_false_iff, ne_eq, matchesStart_callStatement_iff fun c => isBlank_last_callOf]
  rintro ⟨name', gap, arguments', gap', last, h, hname', hgap, -, -, -⟩
  by_cases hne : gap = []
  · subst hne
    obtain ⟨-, -, hbehind⟩ := eq_of_callOf_eq_run hname hname'.2 isWord_open h
    obtain ⟨-, -, hrest⟩ :=
      (List.append_cons_inj_of_notMem harguments List.not_mem_nil).mp hbehind
    exact List.append_ne_nil_of_right_ne_nil gap' (List.cons_ne_nil last []) hrest.symm
  · exact callOf_ne_run_gap hname hname'.2 hne hgap h

private theorem matchesStart_namedCall_callOf {names : List Text}
    (hnames : ∀ name ∈ names, CodePoint.ofChar '(' ∉ name)
    (harguments : CodePoint.ofChar '\n' ∉ arguments) :
    (namedCall names).matchesStart (callOf name arguments) = true ↔ name ∈ names := by
  rw [matchesStart_namedCall_iff fun c => isBlank_last_callOf]
  constructor
  · rintro ⟨name', gap, arguments', h, hmem, hgap, -⟩
    have hbefore : ∀ c ∈ name, (c != CodePoint.ofChar '(') = true := fun c hc =>
      bne_iff_ne.mpr (ne_of_mem_of_not_mem hc (not_mem_of_forall hname.2 isWord_open))
    have hbefore' : ∀ c ∈ name' ++ gap, (c != CodePoint.ofChar '(') = true :=
      List.forall_mem_append.mpr ⟨fun c hc =>
        bne_iff_ne.mpr (ne_of_mem_of_not_mem hc (hnames name' hmem)), fun c hc =>
        bne_iff_ne.mpr (ne_of_mem_of_not_mem hc (not_mem_of_forall hgap (by decide)))⟩
    rw [← List.append_assoc] at h
    obtain ⟨hsame, -, -⟩ := eq_of_run_append_cons hbefore hbefore' (by simp) (by simp) h
    cases gap with
    | nil => rwa [hsame, List.append_nil]
    | cons c gap =>
      have hc := hname.2 c (by simp [hsame])
      rw [CodePoint.isWord_eq_false_of_isBlank (hgap c List.mem_cons_self)] at hc
      cases hc
  · intro hmem
    exact ⟨name, [], arguments, rfl, hmem, by simp, fun c => CodePoint.inLine_of_mem harguments⟩

private theorem matchesStart_modified_callOf {types : List Text}
    (htypes : ∀ type ∈ types, IsWord type) :
    (Java.modifier ++ Pattern.blanks ++ declaration types).matchesStart (callOf name arguments) =
      false := by
  rw [Bool.eq_false_iff]
  intro h
  obtain ⟨modifiers, gap, type, gap', value, last, hcall, hmodifiers, hgap, htype, hne, hgap', -⟩ :=
    Java.exists_of_modified (fun c => isBlank_last_callOf) h
  have hword : ∀ c ∈ modifiers, c.isWord = true := by
    rcases hmodifiers with hword | rfl
    · exact hword.2
    · simp
  by_cases hnil : gap = []
  · have hrun : ∀ c ∈ modifiers ++ type, c.isWord = true :=
      List.forall_mem_append.mpr ⟨hword, (htypes type htype).2⟩
    rw [hnil, List.nil_append, ← List.append_assoc] at hcall
    exact callOf_ne_run_gap hname hrun hne hgap' hcall
  · exact callOf_ne_run_gap hname hword hnil hgap hcall

variable (harguments : CodePoint.ofChar ')' ∉ arguments)
  (hline : CodePoint.ofChar '\n' ∉ arguments)

include harguments hline

private theorem matches_c_callOf_iff :
    (∃ pattern ∈ C.semicolons.statements, pattern.matchesStart (callOf name arguments) = true) ↔
      name ∈ [Text.ofString "printf", "scanf", "return"] := by
  simp only [C.semicolons, List.exists_mem_cons_iff]
  rw [matchesStart_declaration_callOf hname (by decide +kernel),
    matchesStart_assignmentStatement_callOf hname,
    matchesStart_callStatement_callOf hname harguments,
    matchesStart_namedCall_callOf hname (by decide) hline]
  simp

private theorem matches_java_callOf_iff :
    (∃ pattern ∈ Java.semicolons.statements, pattern.matchesStart (callOf name arguments) = true) ↔
      name = Text.ofString "return" := by
  simp only [Java.semicolons, List.exists_mem_cons_iff]
  rw [matchesStart_modified_callOf hname (by decide +kernel),
    matchesStart_assignmentStatement_callOf hname,
    matchesStart_callStatement_callOf hname harguments,
    matchesStart_namedCall_callOf hname (by decide) hline]
  simp only [List.mem_cons, List.not_mem_nil, or_false, Bool.false_eq_true, false_or, false_and,
    exists_false]
  constructor
  · rintro (rfl | rfl | rfl)
    · exact absurd hname (by decide +kernel)
    · exact absurd hname (by decide +kernel)
    · rfl
  · exact fun h => Or.inr (Or.inr h)

private theorem lacksSemicolon_c_callOf_iff {line : Text}
    (htrim : line.trim = callOf name arguments) :
    C.semicolons.lacksSemicolon line.trim = true ↔
      name ∈ [Text.ofString "printf", "scanf", "return"] := by
  rw [C.spans_semicolons.lacksSemicolon_iff, htrim, matches_c_callOf_iff hname harguments hline,
    callOf, startsWithAny_append_cons_eq_false_iff (by decide)]
  exact and_iff_left_of_imp fun h word hword =>
    not_prefix_of_listed name h word (List.mem_append_left _ hword)

private theorem lacksSemicolon_java_callOf_iff {line : Text}
    (htrim : line.trim = callOf name arguments) :
    Java.semicolons.lacksSemicolon line.trim = true ↔ name = Text.ofString "return" := by
  rw [Java.spans_semicolons.lacksSemicolon_iff, htrim,
    matches_java_callOf_iff hname harguments hline, callOf,
    startsWithAny_append_cons_eq_false_iff (by decide)]
  refine and_iff_left_of_imp ?_
  rintro rfl word hword
  exact not_prefix_of_listed "return" (by simp) word (List.mem_append_left _ hword)

end Call

/-- Which simple statements without a semicolon are reported, whatever the other lines are: an
assignment unless its name begins with an exempt word, be it longer than that word, and a call just
if the name is one of the few that are listed. -/
theorem simple_statement_reported_iff {source line name : Text} {number : Nat}
    (hnumber : 1 ≤ number) (hline : source.lines[number - 1]? = some line)
    (hname : IsIdentifier name) :
    (∀ value last, last.isAsciiAlphanumeric = true →
      line.trim = assignmentOf name (value ++ [last]) →
        (number ∈ reportedLines (C.check source) ↔ ∀ word ∈ controlWords, ¬ word <+: name) ∧
        (number ∈ reportedLines (Java.check source) ↔
          ∀ word ∈ controlWords ++ [Text.ofString "import", "package"], ¬ word <+: name)) ∧
    ∀ arguments, CodePoint.ofChar ')' ∉ arguments → line.trim = callOf name arguments →
      (number ∈ reportedLines (C.check source) ↔
        name ∈ [Text.ofString "printf", "scanf", "return"]) ∧
      (number ∈ reportedLines (Java.check source) ↔ name = Text.ofString "return") := by
  have hfeed : CodePoint.ofChar '\n' ∉ line.trim := fun hmem =>
    not_mem_of_mem_lines (List.mem_of_getElem? hline) (mem_of_mem_trim hmem)
  rw [mem_reportedLines_c_iff hnumber hline, mem_reportedLines_java_iff hnumber hline]
  refine ⟨fun value last hlast htrim => ?_, fun arguments harguments htrim => ?_⟩
  · have hvalue : CodePoint.ofChar '\n' ∉ value := fun hmem =>
      hfeed (by simp [htrim, assignmentOf, hmem])
    have hheader : line.trim.startsWithAny ["import", "package"] = false ↔
        ∀ word ∈ [Text.ofString "import", "package"], ¬ word <+: name := by
      rw [htrim, startsWithAny_assignmentOf_eq_false_iff (by decide)]
    rw [C.spans_semicolons.lacksSemicolon_assignmentOf_iff (by simp [C.semicolons]) hname hlast
        hvalue htrim, hheader,
      Java.spans_semicolons.lacksSemicolon_assignmentOf_iff (by simp [Java.semicolons]) hname hlast
        hvalue htrim, List.forall_mem_append]
    exact ⟨Iff.rfl, and_comm⟩
  · have harguments' : CodePoint.ofChar '\n' ∉ arguments := fun hmem =>
      hfeed (by simp [htrim, callOf, hmem])
    rw [lacksSemicolon_c_callOf_iff hname.isWord harguments harguments' htrim,
      lacksSemicolon_java_callOf_iff hname.isWord harguments harguments' htrim]
    refine ⟨Iff.rfl, and_iff_right_of_imp ?_⟩
    rintro rfl
    rw [htrim, callOf, startsWithAny_append_cons_eq_false_iff (by decide)]
    exact (List.forall_mem_append.mp (not_prefix_of_listed "return" (by simp))).2

/-- Of four statements C reports the assignment to a name that begins like no exempt word, and the
call of a listed name; Java does not report the former, as its name begins like that of a header. -/
theorem simple_statement_reported_iff_of_four_lines :
    let source : Text := Text.ofString "important = 5\nformat = 5\nfoo(1)\nreturn(1)"
    (1 ∈ reportedLines (C.check source) ∧ 1 ∉ reportedLines (Java.check source)) ∧
    (2 ∉ reportedLines (C.check source) ∧ 2 ∉ reportedLines (Java.check source)) ∧
    (3 ∉ reportedLines (C.check source) ∧ 3 ∉ reportedLines (Java.check source)) ∧
    (4 ∈ reportedLines (C.check source) ∧ 4 ∈ reportedLines (Java.check source)) := by
  intro source
  have hidentifier : IsIdentifier "important" ∧ IsIdentifier "format" ∧ IsIdentifier "foo" ∧
      IsIdentifier "return" :=
    ⟨⟨⟨_, _, rfl, Or.inl (by decide)⟩, by decide⟩, ⟨⟨_, _, rfl, Or.inl (by decide)⟩, by decide⟩,
      ⟨⟨_, _, rfl, Or.inl (by decide)⟩, by decide⟩, ⟨⟨_, _, rfl, Or.inl (by decide)⟩, by decide⟩⟩
  have hlines : source.lines = [Text.ofString "important = 5", "format = 5", "foo(1)",
      "return(1)"] := by
    decide +kernel
  have himportant := (@simple_statement_reported_iff source "important = 5" "important" 1
    (by decide) (by rw [hlines]; rfl) hidentifier.1).1 [] (CodePoint.ofChar '5') (by decide)
      (by decide +kernel)
  have hformat := (@simple_statement_reported_iff source "format = 5" "format" 2
    (by decide) (by rw [hlines]; rfl) hidentifier.2.1).1 [] (CodePoint.ofChar '5') (by decide)
      (by decide +kernel)
  have hfoo := (@simple_statement_reported_iff source "foo(1)" "foo" 3
    (by decide) (by rw [hlines]; rfl) hidentifier.2.2.1).2 "1" (by decide) (by decide +kernel)
  have hreturn := (@simple_statement_reported_iff source "return(1)" "return" 4
    (by decide) (by rw [hlines]; rfl) hidentifier.2.2.2).2 "1" (by decide) (by decide +kernel)
  rw [himportant.1, himportant.2, hformat.1, hformat.2, hfoo.1, hfoo.2, hreturn.1, hreturn.2]
  decide

end Semicolon

end SnippetReview
