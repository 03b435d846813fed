import Mathlib.Data.List.Nodup
import SnippetReview.Proofs.Checker.C
import SnippetReview.Proofs.Checker.Composition
import SnippetReview.Proofs.Checker.SemicolonRepair
import SnippetReview.Proofs.Rule.Firing

/-!
The shape of what the checkers report: complete diagnostics, about lines that the source has, in a
fixed order and without repetition.
-/

set_option autoImplicit false

namespace SnippetReview

/-- A diagnostic is complete if it is an error with a message and advice. It points to no column. -/
structure Diagnostic.IsComplete (d : Diagnostic) : Prop where
  severity : d.severity = error
  column : d.column = none
  message : d.message ≠ []
  hint : ∃ hint, d.hint = some hint ∧ hint ≠ []

private theorem LineRule.Located.isComplete_report {rule : LineRule} (h : rule.Located)
    (line trimmed : Text) (number : Int) : (rule.report line trimmed number).IsComplete := by
  obtain ⟨message, hint, hreport⟩ := h
  obtain ⟨hmessage, hhint, hnumber⟩ := hreport line trimmed
  rw [hnumber]
  exact ⟨rfl, rfl, hmessage, hint line trimmed, rfl, hhint⟩

theorem LineRule.exists_of_mem_check {rules : List LineRule} {skips : Text → Bool} {source : Text}
    {d : Diagnostic} (hrules : ∀ rule ∈ rules, rule.Located) (h : d ∈ check rules skips source) :
    d.IsComplete ∧ ∃ (number : Nat) (line : Text), 1 ≤ number ∧
      number ≤ source.count (CodePoint.ofChar '\n') + 1 ∧ d.line = some ↑number ∧
        source.lines[number - 1]? = some line ∧ skips line.trim = false := by
  obtain ⟨firing, hoccurs, rfl⟩ := (mem_check_iff rules skips).mp h
  have hlocated := hrules firing.rule (List.mem_of_getElem? hoccurs.rule)
  exact ⟨hlocated.isComplete_report .., firing.number, firing.line, hoccurs.number_pos,
    hoccurs.number_le, hlocated.namesLine .., hoccurs.line, hoccurs.kept⟩

/-- A rule whose reports are about the snippet as a whole, with a message and advice, neither of
them empty. The advice is always the same. -/
def SourceRule.Unlocated (rule : SourceRule) : Prop :=
  ∃ (message : Text → Text) (hint : Text), hint ≠ [] ∧ ∀ source,
    message source ≠ [] ∧ rule.report source = Diagnostic.ofSource (message source) hint

namespace SourceRule

private theorem Unlocated.line_report {rule : SourceRule} (h : rule.Unlocated) (source : Text) :
    (rule.report source).line = none := by
  obtain ⟨message, hint, -, hreport⟩ := h
  rw [(hreport source).2]
  rfl

private theorem Unlocated.hint_report {rule : SourceRule} (h : rule.Unlocated)
    (source other : Text) :
    (rule.report source).hint = (rule.report other).hint := by
  obtain ⟨message, hint, -, hreport⟩ := h
  rw [(hreport source).2, (hreport other).2]
  rfl

private theorem Unlocated.isComplete_report {rule : SourceRule} (h : rule.Unlocated)
    (source : Text) :
    (rule.report source).IsComplete := by
  obtain ⟨message, hint, hhint, hreport⟩ := h
  rw [(hreport source).2]
  exact ⟨rfl, rfl, (hreport source).1, hint, rfl, hhint⟩

private theorem nodup_map_report {rules : List SourceRule} (hrules : ∀ rule ∈ rules, rule.Unlocated)
    (hhints : (rules.map fun rule => (rule.report []).hint).Nodup) (source : Text) :
    (rules.map fun rule => rule.report source).Nodup := by
  have hsame : (rules.map fun rule => (rule.report source).hint) =
      rules.map fun rule => (rule.report []).hint :=
    List.map_congr_left fun rule hrule => (hrules rule hrule).hint_report source []
  refine List.Nodup.of_map Diagnostic.hint ?_
  rw [List.map_map, Function.comp_def, hsame]
  exact hhints

private theorem check_sublist (rules : List SourceRule) (source : Text) :
    (check rules source).Sublist (rules.map fun rule => rule.report source) :=
  List.filter_sublist.map _

/-- Where no two rules report the same, a report tells which rule fires. -/
private theorem mem_check_iff {rules : List SourceRule} {source : Text} {rule : SourceRule}
    (hnodup : (rules.map fun rule => rule.report source).Nodup) (hrule : rule ∈ rules) :
    rule.report source ∈ check rules source ↔ rule.fires source = true := by
  constructor
  · intro h
    obtain ⟨other, hother, hreport⟩ := List.mem_map.mp h
    obtain ⟨hmem, hfires⟩ := List.mem_filter.mp hother
    obtain rfl : other = rule := List.inj_on_of_nodup_map hnodup hmem hrule hreport
    exact hfires
  · intro hfires
    exact List.mem_map_of_mem (List.mem_filter.mpr ⟨hrule, hfires⟩)

end SourceRule

private theorem unlocated_of_mem_balanceRules : ∀ rule ∈ balanceRules, rule.Unlocated := by
  intro rule hrule
  obtain ⟨bracket, -, rfl⟩ := List.mem_map.mp hrule
  refine ⟨_, _, ?_, fun source => ⟨?_, rfl⟩⟩
  · simp
  · simp

namespace Semicolon

/-- The reports of a checker with semicolons are in order: first those of the rules that fire on the
snippet as a whole, no two of the same rule and in the order of the rules, then assignments in
conditions and at last missing semicolons, both by line. A report about a missing semicolon quotes
the line. -/
def InOrder (rules : List SourceRule) (style : Style) (skips : Text → Bool) (source : Text)
    (reports : List Diagnostic) : Prop :=
  ∃ whole conditions missing : List Diagnostic, reports = whole ++ conditions ++ missing ∧
    whole.Sublist (rules.map fun rule => rule.report source) ∧ whole.Nodup ∧
    (∀ rule ∈ rules, rule.report source ∈ whole ↔ rule.fires source = true) ∧
    (∀ d ∈ whole, d.line = none) ∧
    Condition.bracketedRule.AscendingReports LineRule.skipNone source conditions ∧
    style.rule.AscendingReports skips source missing ∧
    ∀ d ∈ missing, ∃ (number : Nat) (line : Text), 1 ≤ number ∧ d.line = some ↑number ∧
      source.lines[number - 1]? = some line ∧ d.message =
        Text.ofString "Missing semicolon at end of statement: \"" ++ line.trim ++ Text.ofString "\""

section Checker

variable {rules : List SourceRule} {style : Style} {skips : Text → Bool} {source : Text}
  {d : Diagnostic} (hrules : ∀ rule ∈ rules, rule.Unlocated) (hhint : style.hint ≠ [])

include hrules in
private theorem line_of_mem_check_sourceRules (hd : d ∈ SourceRule.check rules source) :
    d.line = none := by
  obtain ⟨rule, hrule, rfl⟩ := SourceRule.exists_of_mem_check hd
  exact (hrules rule hrule).line_report source

include hrules in
private theorem inOrder_checkWith (hnodup : (rules.map fun rule => rule.report source).Nodup) :
    InOrder rules style skips source (checkWith rules style skips source) := by
  have hsublist := SourceRule.check_sublist rules source
  have hconditions := LineRule.ascendingReports_check LineRule.skipNone
    Condition.located_bracketedRule.namesLine source
  have hmissing : style.rule.AscendingReports skips source
      (LineRule.check [style.rule] skips source) :=
    LineRule.ascendingReports_check skips (fun _ _ _ => rfl) source
  refine ⟨_, _, _, rfl, hsublist, hnodup.sublist hsublist,
    fun rule hrule => SourceRule.mem_check_iff hnodup hrule,
    fun d hd => line_of_mem_check_sourceRules hrules hd, hconditions, hmissing, ?_⟩
  intro d hd
  obtain ⟨number, line, hnumber, hline, -, -, rfl⟩ := (hmissing.mem_iff d).mp hd
  exact ⟨number, line, hnumber, rfl, hline, rfl⟩

include hhint in
private theorem exists_line_of_mem_checkWith (hd : d ∈ checkWith rules style skips source) :
    d ∈ SourceRule.check rules source ∨ d.IsComplete ∧ ∃ number : Nat, 1 ≤ number ∧
      number ≤ source.count (CodePoint.ofChar '\n') + 1 ∧ d.line = some ↑number := by
  have hline : ∀ {rule : LineRule} {skips : Text → Bool}, rule.Located →
      d ∈ LineRule.check [rule] skips source → d.IsComplete ∧ ∃ number : Nat, 1 ≤ number ∧
        number ≤ source.count (CodePoint.ofChar '\n') + 1 ∧ d.line = some ↑number := by
    intro rule skips hrule hmem
    obtain ⟨hcomplete, number, line, hpos, hlast, hnumber, -⟩ :=
      LineRule.exists_of_mem_check (List.forall_mem_singleton.mpr hrule) hmem
    exact ⟨hcomplete, number, hpos, hlast, hnumber⟩
  rw [checkWith, List.mem_append, List.mem_append] at hd
  rcases hd with (hd | hd) | hd
  · exact Or.inl hd
  · exact Or.inr (hline Condition.located_bracketedRule hd)
  · exact Or.inr (hline (located_rule hhint) hd)

include hrules hhint in
theorem isComplete_of_mem_checkWith (hd : d ∈ checkWith rules style skips source) :
    d.IsComplete ∧ ∀ n, d.line = some n →
      1 ≤ n ∧ n ≤ source.count (CodePoint.ofChar '\n') + 1 := by
  rcases exists_line_of_mem_checkWith hhint hd with hwhole | ⟨hcomplete, number, hpos, hlast, hline⟩
  · have hnone := line_of_mem_check_sourceRules hrules hwhole
    obtain ⟨rule, hrule, rfl⟩ := SourceRule.exists_of_mem_check hwhole
    refine ⟨(hrules rule hrule).isComplete_report source, fun n hn => ?_⟩
    rw [hnone] at hn
    cases hn
  · refine ⟨hcomplete, fun n hn => ?_⟩
    rw [hline, Option.some.injEq] at hn
    omega

include hrules hhint in
private theorem fires_of_mem_checkWith (hnodup : (rules.map fun rule => rule.report source).Nodup)
    {rule : SourceRule} (hrule : rule ∈ rules)
    (hd : rule.report source ∈ checkWith rules style skips source) :
    rule.fires source = true := by
  rcases exists_line_of_mem_checkWith hhint hd with hwhole | ⟨-, number, -, -, hline⟩
  · exact (SourceRule.mem_check_iff hnodup hrule).mp hwhole
  · rw [(hrules rule hrule).line_report source] at hline
    cases hline

end Checker

end Semicolon

namespace C

theorem unlocated_of_mem_sourceRules : ∀ rule ∈ sourceRules, rule.Unlocated := by
  rw [sourceRules, List.forall_mem_append]
  refine ⟨unlocated_of_mem_balanceRules, ?_⟩
  simp only [List.forall_mem_cons]
  refine ⟨⟨_, _, ?_, fun source => ⟨?_, rfl⟩⟩, ⟨_, _, ?_, fun source => ⟨?_, rfl⟩⟩, by simp⟩
  · simp
  · simp
  · simp
  · simp

private theorem nodup_map_report (source : Text) :
    (sourceRules.map fun rule => rule.report source).Nodup :=
  SourceRule.nodup_map_report unlocated_of_mem_sourceRules (by decide +kernel) source

private theorem occursIn_main_of_lacksReturn {before : Option CodePoint} {text : Text}
    (h : lacksReturn before text = true) : Text.ofString "main" <:+: text := by
  induction text generalizing before with
  | nil =>
    rw [lacksReturn_nil] at h
    cases h
  | cons c text ih =>
    -- The search goes on behind the first code point unless a head begins there.
    by_cases hhead : ∃ rest, ReadsHead (c :: text) rest
    · obtain ⟨rest, more, hsplit, gap, after, rfl, -⟩ := hhead
      exact ⟨Text.ofString "int" ++ gap, after, by rw [hsplit]; simp⟩
    · rw [not_exists] at hhead
      rw [lacksReturn_cons hhead] at h
      exact (ih h).trans (List.suffix_cons c text).isInfix

private theorem not_mem_check_of_mainPresentRule {source : Text}
    (h : mainPresentRule.report source ∈ check source) :
    mainReturnsRule.report source ∉ check source := by
  have hhint : semicolons.hint ≠ [] := by
    simp [semicolons]
  have hfires : ∀ rule ∈ sourceRules, rule.report source ∈ check source →
      rule.fires source = true := fun rule hrule hd =>
    Semicolon.fires_of_mem_checkWith unlocated_of_mem_sourceRules hhint (nodup_map_report source)
      hrule hd
  intro hreturns
  have hmain := hfires mainPresentRule (by simp [sourceRules]) h
  have hlacks := hfires mainReturnsRule (by simp [sourceRules]) hreturns
  rw [fires_mainReturnsRule] at hlacks
  have hoccurs := (Text.occursIn_iff_isInfix source).mpr (occursIn_main_of_lacksReturn hlacks)
  simp [mainPresentRule, hoccurs] at hmain

end C

namespace Java

theorem unlocated_of_mem_sourceRules : ∀ rule ∈ sourceRules, rule.Unlocated := by
  rw [sourceRules, List.forall_mem_append]
  refine ⟨unlocated_of_mem_balanceRules, ?_⟩
  simp only [List.forall_mem_cons]
  refine ⟨⟨_, _, ?_, fun source => ⟨?_, rfl⟩⟩, ⟨_, _, ?_, fun source => ⟨?_, rfl⟩⟩, by simp⟩
  · simp
  · simp
  · simp
  · simp

private theorem nodup_map_report (source : Text) :
    (sourceRules.map fun rule => rule.report source).Nodup :=
  SourceRule.nodup_map_report unlocated_of_mem_sourceRules (by decide +kernel) source

end Java

/-- What the checkers report is in order. The Python checker reports the firings of its rules by line
and on one line by rule, so that no rule reports a line twice, and no report is about a blank or a
commented line. The C and the Java checker report on the snippet as a whole, on assignments in
conditions and on missing semicolons, one after the other; a C program does not lack an entry point
and a return from it at once. All reports are complete, and about lines that there are. -/
theorem reports_in_order (source : Text) :
    (∃ firings : List LineRule.Firing, Python.check source = firings.map LineRule.Firing.report ∧
      firings.Pairwise LineRule.Firing.Before ∧
      (∀ firing ∈ firings, firing.report.line = some ↑firing.number) ∧
      ∀ firing, firing ∈ firings ↔ firing.Occurs Python.rules Python.skips source) ∧
    (∀ d ∈ Python.check source, ∃ (number : Nat) (line : Text), 1 ≤ number ∧
      d.line = some ↑number ∧ source.lines[number - 1]? = some line ∧
        line.trim ≠ [] ∧ ¬ Text.ofString "#" <+: line.trim) ∧
    Semicolon.InOrder C.sourceRules C.semicolons C.skips source (C.check source) ∧
    Semicolon.InOrder Java.sourceRules Java.semicolons Java.skips source (Java.check source) ∧
    ¬ (C.mainPresentRule.report source ∈ C.check source ∧
      C.mainReturnsRule.report source ∈ C.check source) ∧
    ∀ d ∈ Python.check source ++ C.check source ++ Java.check source, d.IsComplete ∧
      ∀ n, d.line = some n → 1 ≤ n ∧ n ≤ source.count (CodePoint.ofChar '\n') + 1 := by
  refine ⟨?_, ?_, ?_, ?_, ?_, ?_⟩
  · refine ⟨LineRule.firings Python.rules Python.skips 1 source.lines,
      LineRule.check_eq_map_report .., LineRule.pairwise_firings .., ?_,
      fun firing => LineRule.mem_firings_iff ..⟩
    intro firing hfiring
    have hoccurs := (LineRule.mem_firings_iff ..).mp hfiring
    have hrule := Python.located_of_mem_rules firing.rule (List.mem_of_getElem? hoccurs.rule)
    exact hrule.namesLine firing.line firing.line.trim firing.number
  · intro d hd
    obtain ⟨-, number, line, hpos, -, hnumber, hline, hkept⟩ :=
      LineRule.exists_of_mem_check Python.located_of_mem_rules hd
    have hvisible : ¬ (line.trim = [] ∨ Text.ofString "#" <+: line.trim) := by
      rw [← Python.skips_iff, hkept]
      exact Bool.false_ne_true
    rw [not_or] at hvisible
    exact ⟨number, line, hpos, hnumber, hline, hvisible⟩
  · exact Semicolon.inOrder_checkWith C.unlocated_of_mem_sourceRules (C.nodup_map_report source)
  · exact Semicolon.inOrder_checkWith Java.unlocated_of_mem_sourceRules
      (Java.nodup_map_report source)
  · rintro ⟨hpresent, hreturns⟩
    exact C.not_mem_check_of_mainPresentRule hpresent hreturns
  · intro d hd
    rw [List.mem_append, List.mem_append] at hd
    rcases hd with (hd | hd) | hd
    · obtain ⟨hcomplete, number, line, hpos, hlast, hnumber, -⟩ :=
        LineRule.exists_of_mem_check Python.located_of_mem_rules hd
      refine ⟨hcomplete, fun n hn => ?_⟩
      rw [hnumber, Option.some.injEq] at hn
      omega
    · exact Semicolon.isComplete_of_mem_checkWith C.unlocated_of_mem_sourceRules
        (by simp [C.semicolons]) hd
    · exact Semicolon.isComplete_of_mem_checkWith Java.unlocated_of_mem_sourceRules
        (by simp [Java.semicolons]) hd

/-- A snippet that is neither good C nor good Python: an open block, an assignment in a condition, a
comment and a line without a semicolon. -/
theorem reports_in_order_of_open_main :
    let source : Text := Text.ofString "int main() \x7b\n if (x = 1) y;\n# z\nz = w"
    (Python.check source).map (·.line) = [some 1, some 2, some 2] ∧
    (C.check source).map (·.line) = [none, none, some 2, some 4] ∧
    Semicolon.InOrder C.sourceRules C.semicolons C.skips source (C.check source) ∧
    ∀ d ∈ C.check source, d.IsComplete ∧ ∀ n, d.line = some n → 1 ≤ n ∧ n ≤ 4 := by
  intro source
  have hcount : source.count (CodePoint.ofChar '\n') = 3 := by
    decide +kernel
  obtain ⟨-, -, hC, -, -, hcomplete⟩ := reports_in_order source
  rw [hcount] at hcomplete
  refine ⟨by decide +kernel, by decide +kernel, hC, fun d hd => hcomplete d ?_⟩
  simp [hd]

end SnippetReview
