import SnippetReview.Checker.C
import SnippetReview.Checker.Java
import SnippetReview.Proofs.Rule.Basic
import SnippetReview.Proofs.Rule.Condition

/-!
Following the advice about a missing semicolon. A semicolon at the end of the reported line takes
just that report away: no rule counts or looks for semicolons except the one that asks for them, and
that one sees each line by itself.
-/

set_option autoImplicit false

namespace SnippetReview

abbrev Semicolon.mark : Text := [CodePoint.ofChar ';']

open Semicolon (mark)

namespace Text

private theorem count_appendToLine {c : CodePoint} (hline : c ≠ CodePoint.ofChar '\n')
    (hmark : c ≠ CodePoint.ofChar ';') (source : Text) (number : Nat) :
    (source.appendToLine number mark).count c = source.count c := by
  have hkept : ∀ line : Text, (line ++ mark).count c = line.count c := by
    intro line
    rw [List.count_append, List.count_singleton, if_neg (by simpa using Ne.symm hmark),
      Nat.add_zero]
  exact count_congr_of_lines hline (map_lines_appendToLine (by decide) hkept source number)

private theorem occursIn_appendToLine {needle : Text} (hne : needle ≠ [])
    (hline : CodePoint.ofChar '\n' ∉ needle) (hmark : CodePoint.ofChar ';' ∉ needle)
    (source : Text) (number : Nat) :
    occursIn needle (source.appendToLine number mark) = occursIn needle source := by
  have hkept : ∀ line : Text, occursIn needle (line ++ mark) = occursIn needle line := by
    intro line
    refine @occursIn_padded needle [] mark hne (by simp) (fun c hc hmem => ?_) line
    rw [List.mem_singleton] at hmem
    exact hmark (hmem ▸ hc)
  exact occursIn_congr_of_lines hline hne
    (map_lines_appendToLine (by decide) hkept source number)

end Text

namespace Semicolon

def isReport (d : Diagnostic) : Bool :=
  (Text.ofString "Missing semicolon at end of statement").isPrefixOf d.message

theorem isReport_report (style : Style) (line trimmed : Text) (number : Int) :
    isReport (style.rule.report line trimmed number) = true := by
  have hlead : Text.ofString "Missing semicolon at end of statement" <+:
      Text.ofString "Missing semicolon at end of statement: \"" := by
    simp [Text.ofString]
  rw [isReport, List.isPrefixOf_iff_prefix]
  exact (hlead.trans (List.prefix_append _ trimmed)).trans (List.prefix_append _ _)

private theorem isReport_eq_false_of_lead {d : Diagnostic} (lead : Text) (hd : lead <+: d.message)
    (hlead : ¬ Text.ofString "Missing semicolon at end of statement" <+: lead ∧
      ¬ lead <+: Text.ofString "Missing semicolon at end of statement") : isReport d = false := by
  rw [isReport, Bool.eq_false_iff, ne_eq, List.isPrefixOf_iff_prefix]
  intro h
  exact (List.prefix_or_prefix_of_prefix h hd).elim hlead.1 hlead.2

private theorem isReport_of_mem_check_bracketedRule {source : Text} {d : Diagnostic}
    (h : d ∈ LineRule.check [Condition.bracketedRule] LineRule.skipNone source) :
    isReport d = false := by
  obtain ⟨front, line, back, -, hline⟩ := LineRule.exists_of_mem_checkLines h
  rw [(LineRule.checkLine_of_mem_singleton hline).1]
  refine isReport_eq_false_of_lead
    (Text.ofString "Possible assignment (=) instead of comparison (==) in ") ?_ (by decide)
  simp [Condition.bracketedRule, Condition.message, Diagnostic.ofLine]

private theorem isReport_of_mem_check_rule {style : Style} {skips : Text → Bool} {source : Text}
    {d : Diagnostic} (h : d ∈ LineRule.check [style.rule] skips source) : isReport d = true := by
  obtain ⟨front, line, back, -, hline⟩ := LineRule.exists_of_mem_checkLines h
  rw [(LineRule.checkLine_of_mem_singleton hline).1]
  exact isReport_report ..

private theorem checkLine_append_mark (style : Style) (skips : Text → Bool) (number : Int)
    (line : Text) :
    LineRule.checkLine [style.rule] skips number (line ++ mark) = [] := by
  have hleft : ∃ front, (line ++ mark).trimLeft = front ++ mark := by
    rw [Text.trimLeft, List.dropWhile_append]
    split
    · exact ⟨[], by decide⟩
    · exact ⟨_, rfl⟩
  obtain ⟨front, hfront⟩ := hleft
  have htrim : (line ++ mark).trim = front ++ mark := by
    rw [Text.trim, hfront]
    refine Text.trimRight_eq_self fun c hc => ?_
    rw [List.getLast?_concat, Option.some.injEq] at hc
    rw [← hc]
    decide
  have hends : Text.endsWithAny [";", ","] (line ++ mark).trim = true := by
    rw [htrim, Text.endsWithAny, List.any_cons, Bool.or_eq_true, List.isSuffixOf_iff_suffix]
    exact Or.inl (List.suffix_append front mark)
  rw [LineRule.checkLine_singleton, if_neg]
  rintro ⟨-, hfires⟩
  simp only [Style.rule, Style.lacksSemicolon, hends, Bool.not_true, Bool.and_false] at hfires
  exact Bool.false_ne_true hfires

/-- A semicolon at the end of a reported line takes one report away. -/
private theorem check_rule_appendToLine (style : Style) (skips : Text → Bool) {source : Text}
    {d : Diagnostic} (h : d ∈ LineRule.check [style.rule] skips source) :
    ∃ number : Nat, 1 ≤ number ∧ number ≤ source.lines.length ∧ d.line = some ↑number ∧
      LineRule.check [style.rule] skips (source.appendToLine number mark) =
        (LineRule.check [style.rule] skips source).erase d := by
  obtain ⟨front, line, back, hlines, hline⟩ := LineRule.exists_of_mem_checkLines h
  have hreport := LineRule.checkLine_of_mem_singleton hline
  refine ⟨front.length + 1, by omega, by rw [hlines]; simp, ?_, ?_⟩
  · rw [hreport.1]
    simp [Style.rule, Diagnostic.ofLine, Int.add_comm]
  · have hnames : ∀ rule ∈ [style.rule], rule.NamesLine :=
      List.forall_mem_singleton.mpr fun _ _ _ => rfl
    have herase : LineRule.checkLine [style.rule] skips (1 + front.length) (line ++ mark) =
        (LineRule.checkLine [style.rule] skips (1 + front.length) line).erase d := by
      rw [checkLine_append_mark, hreport.2, List.erase_cons_head]
    rw [LineRule.check, LineRule.check, Text.lines_appendToLine (by decide), hlines,
      Nat.add_sub_cancel]
    exact LineRule.checkLines_modify_eq_erase hnames hline herase

/-- What the checkers with semicolons have in common: rules about the whole snippet, assignments in
conditions, and missing semicolons. -/
def checkWith (rules : List SourceRule) (style : Style) (skips : Text → Bool) (source : Text) :
    List Diagnostic :=
  SourceRule.check rules source ++
    LineRule.check [Condition.bracketedRule] LineRule.skipNone source ++
    LineRule.check [style.rule] skips source

theorem isReport_of_mem_before {rules : List SourceRule}
    (hother : ∀ rule ∈ rules, ∀ source, isReport (rule.report source) = false) {source : Text}
    {d : Diagnostic} (h : d ∈ SourceRule.check rules source ++
      LineRule.check [Condition.bracketedRule] LineRule.skipNone source) : isReport d = false := by
  rcases List.mem_append.mp h with hsource | hline
  · obtain ⟨rule, hrule, rfl⟩ := SourceRule.exists_of_mem_check hsource
    exact hother rule hrule source
  · exact isReport_of_mem_check_bracketedRule hline

private theorem check_bracketedRule_appendToLine (source : Text) (number : Nat) :
    LineRule.check [Condition.bracketedRule] LineRule.skipNone (source.appendToLine number mark) =
      LineRule.check [Condition.bracketedRule] LineRule.skipNone source := by
  rw [LineRule.check, LineRule.check, Text.lines_appendToLine (by decide)]
  refine LineRule.checkLines_modify (fun number line => ?_) 1 _ _
  refine LineRule.checkLine_congr rfl (List.forall_mem_singleton.mpr ?_)
  have hmark : ∀ c ∈ mark, c.isWord = false :=
    List.forall_mem_singleton.mpr ((CodePoint.isWord_of_ascii (by decide)).trans (by decide))
  have hpadded := @Condition.bracketedRule_padded [] mark (by simp) hmark (by decide) line
    (line ++ mark).trim line.trim
  exact ⟨hpadded.1, hpadded.2 number⟩

def reportedLines (diagnostics : List Diagnostic) : List Nat :=
  diagnostics.filterMap fun d => if isReport d then d.line.map Int.toNat else none

theorem mem_reportedLines_iff {diagnostics : List Diagnostic} {number : Nat} :
    number ∈ reportedLines diagnostics ↔
      ∃ d ∈ diagnostics, isReport d = true ∧ d.line.map Int.toNat = some number := by
  rw [reportedLines, List.mem_filterMap]
  refine exists_congr fun d => and_congr_right fun _ => ?_
  cases isReport d <;> simp

def repair (source : Text) (numbers : List Nat) : Text :=
  numbers.foldl (fun text number => text.appendToLine number mark) source

section Checker

variable {rules : List SourceRule} {keep : Diagnostic → Bool} (style : Style) (skips : Text → Bool)
  (hrules : ∀ source number,
    (SourceRule.check rules (source.appendToLine number mark)).filter keep =
      (SourceRule.check rules source).filter keep)
  (hother : ∀ rule ∈ rules, ∀ source, isReport (rule.report source) = false)
  (hkeep : ∀ d, isReport d = true → keep d = true)

include hrules hother hkeep

/-- Following the advice of a report takes that report away, and nothing else of what is kept. -/
private theorem checkWith_appendToLine {source : Text} {d : Diagnostic}
    (hd : d ∈ checkWith rules style skips source) (hreport : isReport d = true) :
    ∃ number : Nat, 1 ≤ number ∧ number ≤ source.lines.length ∧ d.line = some ↑number ∧
      (checkWith rules style skips (source.appendToLine number mark)).filter keep =
        ((checkWith rules style skips source).filter keep).erase d := by
  have hbefore : d ∉ SourceRule.check rules source ++
      LineRule.check [Condition.bracketedRule] LineRule.skipNone source := by
    intro hmem
    rw [isReport_of_mem_before hother hmem] at hreport
    cases hreport
  have hsemicolon : d ∈ LineRule.check [style.rule] skips source :=
    (List.mem_append.mp hd).resolve_left hbefore
  obtain ⟨number, hpos, hlast, hline, hcheck⟩ := check_rule_appendToLine style skips hsemicolon
  refine ⟨number, hpos, hlast, hline, ?_⟩
  have hkept : ∀ e ∈ LineRule.check [style.rule] skips source, keep e = true := fun e he =>
    hkeep e (isReport_of_mem_check_rule he)
  have hkeptBefore : d ∉ (SourceRule.check rules source).filter keep ++
      (LineRule.check [Condition.bracketedRule] LineRule.skipNone source).filter keep := by
    rw [← List.filter_append]
    exact fun hmem => hbefore (List.mem_of_mem_filter hmem)
  rw [checkWith, checkWith, check_bracketedRule_appendToLine, hcheck]
  simp only [List.filter_append]
  rw [hrules, List.filter_eq_self.mpr hkept, List.erase_append_right _ hkeptBefore,
    List.filter_eq_self.mpr fun e he => hkept e (List.mem_of_mem_erase he)]

/-- Following the advice for each reported line, in whatever order, leaves no report. -/
private theorem isReport_of_mem_checkWith_repair {source : Text} {numbers : List Nat}
    (hnumbers : numbers.Perm (reportedLines (checkWith rules style skips source))) :
    ∀ d ∈ checkWith rules style skips (repair source numbers), isReport d = false := by
  have hreported : ∀ diagnostics, reportedLines (diagnostics.filter keep) =
      reportedLines diagnostics := by
    intro diagnostics
    rw [reportedLines, reportedLines, List.filterMap_filter]
    refine List.filterMap_congr fun d _ => ?_
    cases hd : isReport d with
    | true => simp [hkeep d hd]
    | false => simp
  -- Each line that is repaired takes its number from the reported ones, up to the order.
  induction numbers generalizing source with
  | nil =>
    intro d hd
    rw [Bool.eq_false_iff]
    intro hreport
    obtain ⟨number, -, -, hline, -⟩ :=
      checkWith_appendToLine style skips hrules hother hkeep hd hreport
    have hmem : number ∈ reportedLines (checkWith rules style skips source) :=
      mem_reportedLines_iff.mpr ⟨d, hd, hreport, by simp [hline]⟩
    rw [← hnumbers.nil_eq] at hmem
    exact List.not_mem_nil hmem
  | cons number numbers ih =>
    obtain ⟨d, hd, hreport, hnumber⟩ :=
      mem_reportedLines_iff.mp (hnumbers.mem_iff.mp List.mem_cons_self)
    obtain ⟨number', -, -, hline, hcheck⟩ :=
      checkWith_appendToLine style skips hrules hother hkeep hd hreport
    have heq : number' = number := by
      simpa [hline] using hnumber
    rw [heq] at hcheck
    refine ih (hnumbers.trans ?_).cons_inv
    have hperm := List.perm_cons_erase (List.mem_filter.mpr ⟨hd, hkeep d hreport⟩)
    rw [← hcheck] at hperm
    rw [← hreported, ← hreported (checkWith rules style skips (source.appendToLine number mark))]
    refine (hperm.filterMap _).trans (List.Perm.of_eq ?_)
    exact List.filterMap_cons_some (by rw [if_pos hreport, hnumber])

end Checker

private theorem check_balanceRules_appendToLine (source : Text) (number : Nat) :
    SourceRule.check balanceRules (source.appendToLine number mark) =
      SourceRule.check balanceRules source := by
  have hbrackets : ∀ c ∈ Text.ofString "\x7b\x7d()[]",
      c ≠ CodePoint.ofChar '\n' ∧ c ≠ CodePoint.ofChar ';' := by
    decide
  exact check_balanceRules_congr fun c hc =>
    Text.count_appendToLine (hbrackets c hc).1 (hbrackets c hc).2 source number

private theorem isReport_of_mem_balanceRules (rule : SourceRule) (hrule : rule ∈ balanceRules)
    (source : Text) : isReport (rule.report source) = false := by
  obtain ⟨bracket, -, rfl⟩ := List.mem_map.mp hrule
  refine isReport_eq_false_of_lead (Text.ofString "Mismatched ") ?_ (by decide)
  simp [Bracket.sourceRule, Diagnostic.ofSource]

end Semicolon

namespace Java

open Semicolon

private theorem check_sourceRules_appendToLine (source : Text) (number : Nat) :
    SourceRule.check sourceRules (source.appendToLine number mark) =
      SourceRule.check sourceRules source := by
  have hnames : SourceRule.check [classPresentRule, mainPresentRule]
      (source.appendToLine number mark) =
        SourceRule.check [classPresentRule, mainPresentRule] source := by
    refine SourceRule.check_congr fun rule hrule => ?_
    simp only [List.mem_cons, List.not_mem_nil, or_false] at hrule
    obtain rfl | rfl := hrule
    · exact ⟨congrArg Bool.not
        (Text.occursIn_appendToLine (by decide) (by decide) (by decide) source number), rfl⟩
    · exact ⟨congrArg Bool.not
        (Text.occursIn_appendToLine (by decide) (by decide) (by decide) source number), rfl⟩
  rw [sourceRules, SourceRule.check_append, SourceRule.check_append,
    check_balanceRules_appendToLine, hnames]

theorem isReport_of_mem_sourceRules :
    ∀ rule ∈ sourceRules, ∀ source, isReport (rule.report source) = false := by
  have hnames : isReport (classPresentRule.report []) = false ∧
      isReport (mainPresentRule.report []) = false := by
    decide +kernel
  rw [sourceRules, List.forall_mem_append]
  refine ⟨isReport_of_mem_balanceRules, ?_⟩
  simp only [List.forall_mem_cons]
  exact ⟨fun _ => hnames.1, fun _ => hnames.2, by simp⟩

end Java

namespace C

open Semicolon

def isMissingReturn (d : Diagnostic) : Bool :=
  d.message = Text.ofString "main() function should have a return statement"

private theorem filter_check_mainReturnsRule (source : Text) :
    (SourceRule.check [mainReturnsRule] source).filter (!isMissingReturn ·) = [] := by
  refine SourceRule.filter_check_eq_nil (List.forall_mem_singleton.mpr ?_)
  change (!isMissingReturn (mainReturnsRule.report [])) = false
  decide +kernel

private theorem filter_check_sourceRules_appendToLine (source : Text) (number : Nat) :
    (SourceRule.check sourceRules (source.appendToLine number mark)).filter (!isMissingReturn ·) =
      (SourceRule.check sourceRules source).filter (!isMissingReturn ·) := by
  have hmain : SourceRule.check [mainPresentRule] (source.appendToLine number mark) =
      SourceRule.check [mainPresentRule] source := by
    refine SourceRule.check_congr (List.forall_mem_singleton.mpr ⟨?_, rfl⟩)
    exact congrArg Bool.not
      (Text.occursIn_appendToLine (by decide) (by decide) (by decide) source number)
  have hrules : sourceRules = balanceRules ++ ([mainPresentRule] ++ [mainReturnsRule]) := rfl
  simp only [hrules, SourceRule.check_append, List.filter_append, filter_check_mainReturnsRule,
    check_balanceRules_appendToLine, hmain]

theorem isReport_of_mem_sourceRules :
    ∀ rule ∈ sourceRules, ∀ source, isReport (rule.report source) = false := by
  have hmain : isReport (mainPresentRule.report []) = false ∧
      isReport (mainReturnsRule.report []) = false := by
    decide +kernel
  rw [sourceRules, List.forall_mem_append]
  refine ⟨isReport_of_mem_balanceRules, ?_⟩
  simp only [List.forall_mem_cons]
  exact ⟨fun _ => hmain.1, fun _ => hmain.2, by simp⟩

private theorem keeps_report (d : Diagnostic) (h : isReport d = true) :
    (!isMissingReturn d) = true := by
  rw [Bool.not_eq_true', isMissingReturn, decide_eq_false_iff_not]
  intro hmessage
  rw [isReport, hmessage] at h
  exact absurd h (by decide)

end C

namespace Semicolon

/-- Following the hint about a missing semicolon fixes just that problem. For each report of the C
or the Java checker there is a line that it is about, and with a semicolon at the end of that line
the diagnostics are the old ones without the report; in C this leaves out the diagnostic about a
missing return, which looks at several lines. So when the lines of all reports are followed, in
whatever order, no report is left. -/
theorem repair_fixes_report :
    (∀ source : Text, ∀ d ∈ C.check source, isReport d = true → ∃ number : Nat, 1 ≤ number ∧
      number ≤ source.lines.length ∧ d.line = some ↑number ∧
        (C.check (source.appendToLine number mark)).filter (!C.isMissingReturn ·) =
          ((C.check source).filter (!C.isMissingReturn ·)).erase d) ∧
    (∀ source : Text, ∀ d ∈ Java.check source, isReport d = true → ∃ number : Nat, 1 ≤ number ∧
      number ≤ source.lines.length ∧ d.line = some ↑number ∧
        Java.check (source.appendToLine number mark) = (Java.check source).erase d) ∧
    (∀ (source : Text) (numbers : List Nat), numbers.Perm (reportedLines (C.check source)) →
      ∀ d ∈ C.check (repair source numbers), isReport d = false) ∧
    ∀ (source : Text) (numbers : List Nat), numbers.Perm (reportedLines (Java.check source)) →
      ∀ d ∈ Java.check (repair source numbers), isReport d = false := by
  have hall : ∀ diagnostics : List Diagnostic, diagnostics.filter (fun _ => true) = diagnostics :=
    fun diagnostics => List.filter_eq_self.mpr fun _ _ => rfl
  have hjava : ∀ source number,
      (SourceRule.check Java.sourceRules (source.appendToLine number mark)).filter (fun _ => true) =
        (SourceRule.check Java.sourceRules source).filter (fun _ => true) := fun source number =>
    congrArg _ (Java.check_sourceRules_appendToLine source number)
  refine ⟨fun source d hd hreport => ?_, fun source d hd hreport => ?_, fun source numbers h => ?_,
    fun source numbers h => ?_⟩
  · exact checkWith_appendToLine C.semicolons C.skips C.filter_check_sourceRules_appendToLine
      C.isReport_of_mem_sourceRules C.keeps_report hd hreport
  · obtain ⟨number, hpos, hlast, hline, hcheck⟩ := checkWith_appendToLine Java.semicolons Java.skips
      hjava Java.isReport_of_mem_sourceRules (fun _ _ => rfl) hd hreport
    rw [hall, hall] at hcheck
    exact ⟨number, hpos, hlast, hline, hcheck⟩
  · exact isReport_of_mem_checkWith_repair C.semicolons C.skips
      C.filter_check_sourceRules_appendToLine C.isReport_of_mem_sourceRules C.keeps_report h
  · exact isReport_of_mem_checkWith_repair Java.semicolons Java.skips hjava
      Java.isReport_of_mem_sourceRules (fun _ _ => rfl) h

/-- Two lines that both checkers report, the first of them with a tab at its end. -/
theorem repair_fixes_report_of_two_lines :
    let source : Text := Text.ofString "class main\nx = 1\t\ny = x"
    (∃ d ∈ C.check source, isReport d = true ∧ ∃ number : Nat, 1 ≤ number ∧
      number ≤ source.lines.length ∧ d.line = some ↑number ∧
        (C.check (source.appendToLine number mark)).filter (!C.isMissingReturn ·) =
          ((C.check source).filter (!C.isMissingReturn ·)).erase d) ∧
    (∃ d ∈ Java.check source, isReport d = true ∧ ∃ number : Nat, 1 ≤ number ∧
      number ≤ source.lines.length ∧ d.line = some ↑number ∧
        Java.check (source.appendToLine number mark) = (Java.check source).erase d) ∧
    (∀ d ∈ C.check (repair source [3, 2]), isReport d = false) ∧
    ∀ d ∈ Java.check (repair source [3, 2]), isReport d = false := by
  intro source
  have hlines : [3, 2].Perm (reportedLines (C.check source)) ∧
      [3, 2].Perm (reportedLines (Java.check source)) := by
    decide +kernel
  obtain ⟨c, hc, hreportc, -⟩ :=
    mem_reportedLines_iff.mp (hlines.1.mem_iff.mp List.mem_cons_self)
  obtain ⟨java, hjava, hreportjava, -⟩ :=
    mem_reportedLines_iff.mp (hlines.2.mem_iff.mp List.mem_cons_self)
  exact ⟨⟨c, hc, hreportc, repair_fixes_report.1 source c hc hreportc⟩,
    ⟨java, hjava, hreportjava, repair_fixes_report.2.1 source java hjava hreportjava⟩,
    repair_fixes_report.2.2.1 source [3, 2] hlines.1,
    repair_fixes_report.2.2.2 source [3, 2] hlines.2⟩

end Semicolon

end SnippetReview
