import SnippetReview.Checker.Java
import SnippetReview.Checker.Python
import SnippetReview.Proofs.Checker.C
import SnippetReview.Proofs.Rule.Basic
import SnippetReview.Proofs.Rule.Condition

/-!
Spacing at the ends of lines. The checkers see a source as the list of its trimmed lines: each rule
about a line gives the same answer for the line and the trimmed line, and each rule about a source
looks for visible text only, or for words with any blanks between them. The one exception is the
rule that looks for a class, since it asks for a certain blank.
-/

set_option autoImplicit false

namespace SnippetReview

namespace Text

private theorem count_trim {c : CodePoint} (hc : c.isBlank = false) (text : Text) :
    text.trim.count c = text.count c := by
  obtain ⟨left, right, htext, hleft, hright⟩ := exists_trim text
  have hnone : left.count c = 0 ∧ right.count c = 0 :=
    ⟨List.count_eq_zero.mpr (not_mem_of_forall hleft hc),
      List.count_eq_zero.mpr (not_mem_of_forall hright hc)⟩
  conv_rhs => rw [htext]
  rw [List.count_append, List.count_append, hnone.1, hnone.2, Nat.zero_add, Nat.add_zero]

section Trimmed

variable {source other : Text} (h : source.lines.map trim = other.lines.map trim)

include h

private theorem map_lines_congr_of_trimmed_lines {α : Type} {f : Text → α}
    (hf : ∀ line, f line.trim = f line) : source.lines.map f = other.lines.map f := by
  have hmap : ∀ text : Text, text.lines.map f = (text.lines.map trim).map f := by
    intro text
    rw [List.map_map]
    exact List.map_congr_left fun line _ => (hf line).symm
  rw [hmap, h, ← hmap]

private theorem count_congr_of_trimmed_lines {c : CodePoint} (hc : c.isBlank = false) :
    source.count c = other.count c := by
  have hne : c ≠ CodePoint.ofChar '\n' := by
    rintro rfl
    exact absurd hc (by decide)
  exact count_congr_of_lines hne (map_lines_congr_of_trimmed_lines h (count_trim hc))

private theorem occursIn_congr_of_trimmed_lines {needle : Text} (hneedle : IsVisible needle) :
    occursIn needle source = occursIn needle other :=
  occursIn_congr_of_lines hneedle.not_mem_newline hneedle.1
    (map_lines_congr_of_trimmed_lines h (occursIn_trim hneedle))

end Trimmed

end Text

private theorem Condition.seesTrimmed_bracketedRule : bracketedRule.SeesTrimmed := by
  intro line
  obtain ⟨left, right, hline, hleft, hright⟩ := Text.exists_trim line
  have hpadded := bracketedRule_padded
    (fun c hc => CodePoint.isWord_eq_false_of_isBlank (hleft c hc))
    (fun c hc => CodePoint.isWord_eq_false_of_isBlank (hright c hc))
    (fun hmem => absurd (hright _ hmem) (by decide)) line.trim line.trim line.trim
  rwa [← hline] at hpadded

private theorem Bracket.seesTrimmed_lineRule {bracket : Bracket}
    (hopening : bracket.opening.isBlank = false) (hclosing : bracket.closing.isBlank = false) :
    bracket.lineRule.SeesTrimmed := by
  intro line
  simp only [lineRule, isUnbalanced, Text.count_trim hopening, Text.count_trim hclosing,
    implies_true, and_self]

namespace Python

open Pattern

theorem isWord_of_matches_blockKeyword {before : Option CodePoint} {matched rest : Text}
    (h : (oneOf blockKeywords ++ .boundary).Matches before matched rest) : Text.IsWord matched := by
  obtain ⟨word, edge, rfl, hword, hedge⟩ := matches_append.mp h
  rw [(matches_boundary.mp hedge).1, List.append_nil]
  have hall : ∀ word ∈ blockKeywords, Text.IsWord word := by
    decide +kernel
  exact hall word (matches_oneOf.mp hword)

theorem isWord_of_matches_loneKeyword {before : Option CodePoint} {matched rest : Text}
    (h : (oneOf loneKeywords).Matches before matched rest) : Text.IsWord matched := by
  have hall : ∀ word ∈ loneKeywords, Text.IsWord word := by
    decide +kernel
  exact hall matched (matches_oneOf.mp h)

theorem blockPattern_trim (line : Text) :
    blockPattern.matchesStart line.trim = blockPattern.matchesStart line := by
  rw [blockPattern, matchesStart_append_assoc, matchesStart_append_assoc]
  exact matchesStart_blanks_trim (by decide)
    (fun h => (isWord_of_matches_blockKeyword h).isVisible.exists_head)
    (fun h => (isWord_of_matches_blockKeyword h).isVisible.exists_last) line

theorem lonePattern_trim (line : Text) :
    lonePattern.matchesStart line.trim = lonePattern.matchesStart line := by
  rw [lonePattern, matchesStart_append_blanks, matchesStart_append_blanks]
  exact matchesStart_blanks_trim (by decide)
    (fun h => (isWord_of_matches_loneKeyword h).isVisible.exists_head)
    (fun h => (isWord_of_matches_loneKeyword h).isVisible.exists_last) line

theorem seesTrimmed_of_mem_rules : ∀ rule ∈ rules, rule.SeesTrimmed := by
  have hline : ∀ {rule : LineRule}, (∀ line line' trimmed, rule.fires line trimmed =
      rule.fires line' trimmed) → (∀ line line' trimmed number, rule.report line trimmed number =
        rule.report line' trimmed number) → rule.SeesTrimmed :=
    fun hfires hreport line => ⟨hfires .., fun _ => hreport ..⟩
  simp only [rules, List.forall_mem_cons]
  refine ⟨hline (fun _ _ _ => rfl) fun _ _ _ _ => rfl, ?_, ?_,
    hline (fun _ _ _ => rfl) fun _ _ _ _ => rfl, hline (fun _ _ _ => rfl) fun _ _ _ _ => rfl,
    hline (fun _ _ _ => rfl) fun _ _ _ _ => rfl,
    Bracket.seesTrimmed_lineRule (by decide) (by decide),
    Bracket.seesTrimmed_lineRule (by decide) (by decide),
    Bracket.seesTrimmed_lineRule (by decide) (by decide), by simp⟩
  · intro line
    exact ⟨by simp only [blockColonRule, blockPattern_trim], fun _ => rfl⟩
  · intro line
    exact ⟨by simp only [loneColonRule, lonePattern_trim], fun _ => rfl⟩

end Python

section Trimmed

variable {source other : Text} (h : source.lines.map Text.trim = other.lines.map Text.trim)

include h

private theorem Python.check_congr : Python.check source = Python.check other :=
  LineRule.check_congr seesTrimmed_of_mem_rules h

private theorem check_balanceRules_congr_of_trimmed_lines :
    SourceRule.check balanceRules source = SourceRule.check balanceRules other := by
  have hvisible : ∀ c ∈ Text.ofString "\x7b\x7d()[]", c.isBlank = false := by
    decide
  exact check_balanceRules_congr fun c hc => Text.count_congr_of_trimmed_lines h (hvisible c hc)

private theorem check_bracketedRule_congr :
    LineRule.check [Condition.bracketedRule] LineRule.skipNone source =
      LineRule.check [Condition.bracketedRule] LineRule.skipNone other :=
  LineRule.check_congr (List.forall_mem_singleton.mpr Condition.seesTrimmed_bracketedRule) h

private theorem Semicolon.check_rule_congr (style : Semicolon.Style) (skips : Text → Bool) :
    LineRule.check [style.rule] skips source = LineRule.check [style.rule] skips other := by
  refine LineRule.check_congr (List.forall_mem_singleton.mpr fun line => ?_) h
  exact ⟨rfl, fun _ => rfl⟩

private theorem occursIn_main_congr : Text.occursIn "main" source = Text.occursIn "main" other :=
  Text.occursIn_congr_of_trimmed_lines h (by decide)

private theorem C.check_congr : C.check source = C.check other := by
  have hmain : SourceRule.check [mainPresentRule, mainReturnsRule] source =
      SourceRule.check [mainPresentRule, mainReturnsRule] other := by
    refine SourceRule.check_congr fun rule hrule => ?_
    simp only [List.mem_cons, List.not_mem_nil, or_false] at hrule
    obtain rfl | rfl := hrule
    · exact ⟨by simp only [mainPresentRule, occursIn_main_congr h], rfl⟩
    · exact ⟨mainReturnsRule_congr h, rfl⟩
  rw [C.check, C.check, sourceRules, SourceRule.check_append, SourceRule.check_append,
    check_balanceRules_congr_of_trimmed_lines h, hmain, check_bracketedRule_congr h,
    Semicolon.check_rule_congr h]

end Trimmed

namespace Java

def isMissingClass (d : Diagnostic) : Bool :=
  (Text.ofString "Missing class definition").isPrefixOf d.message

private theorem filter_check_classPresentRule (source : Text) :
    (SourceRule.check [classPresentRule] source).filter (!isMissingClass ·) = [] := by
  refine SourceRule.filter_check_eq_nil (List.forall_mem_singleton.mpr ?_)
  change (!isMissingClass (classPresentRule.report [])) = false
  decide

private theorem check_congr {source other : Text}
    (h : source.lines.map Text.trim = other.lines.map Text.trim) :
    (check source).filter (!isMissingClass ·) = (check other).filter (!isMissingClass ·) := by
  have hmain : SourceRule.check [mainPresentRule] source =
      SourceRule.check [mainPresentRule] other := by
    refine SourceRule.check_congr (List.forall_mem_singleton.mpr ⟨?_, rfl⟩)
    simp only [mainPresentRule, occursIn_main_congr h]
  have hrules : sourceRules = balanceRules ++ ([classPresentRule] ++ [mainPresentRule]) := rfl
  rw [check, check, hrules]
  simp only [SourceRule.check_append, List.filter_append, filter_check_classPresentRule,
    check_balanceRules_congr_of_trimmed_lines h, hmain, check_bracketedRule_congr h,
    Semicolon.check_rule_congr h]

end Java

def Text.withCarriageReturns (source : Text) : Text :=
  source.flatMap fun c => if c = CodePoint.ofChar '\n' then [CodePoint.ofChar '\r', c] else [c]

private theorem Text.trim_lines_withCarriageReturns (source : Text) :
    source.withCarriageReturns.lines.map trim = source.lines.map trim := by
  have hline : ∀ line : Text, CodePoint.ofChar '\n' ∉ line → line.withCarriageReturns = line := by
    intro line hline
    have hkeep : ∀ c ∈ line,
        (if c = CodePoint.ofChar '\n' then [CodePoint.ofChar '\r', c] else [c]) = [c] := by
      intro c hc
      rw [if_neg]
      rintro rfl
      exact hline hc
    rw [withCarriageReturns, List.flatMap_congr hkeep]
    exact List.flatMap_singleton' line
  induction source using lines_induction with
  | last line h => rw [hline line h]
  | next line rest h ih =>
    have hnext : (line ++ CodePoint.ofChar '\n' :: rest).withCarriageReturns =
        (line ++ [CodePoint.ofChar '\r']) ++ CodePoint.ofChar '\n' :: rest.withCarriageReturns := by
      rw [withCarriageReturns, List.flatMap_append, List.flatMap_cons, if_pos rfl]
      change line.withCarriageReturns ++ _ = _
      rw [hline line h]
      simp [withCarriageReturns]
    have hreturn : CodePoint.ofChar '\n' ∉ line ++ [CodePoint.ofChar '\r'] := by
      rw [List.mem_append, not_or]
      exact ⟨h, by decide⟩
    rw [hnext, lines_append_newline hreturn, lines_append_newline h, List.map_cons, List.map_cons,
      ih]
    congr 1
    exact @trim_padded line [] _ (by simp) (by decide)

/-- Spacing at the ends of lines does not matter. Two sources with the same trimmed lines get the
same diagnostics, in Java once those about a missing class are left out; so carriage returns before
line feeds make no difference, nor does indentation. -/
theorem check_eq_of_trimmed_lines :
    (∀ source other : Text, source.lines.map Text.trim = other.lines.map Text.trim →
      Python.check source = Python.check other ∧ C.check source = C.check other ∧
        (Java.check source).filter (!Java.isMissingClass ·) =
          (Java.check other).filter (!Java.isMissingClass ·)) ∧
    (∀ source : Text, Python.check source.withCarriageReturns = Python.check source ∧
      C.check source.withCarriageReturns = C.check source) ∧
    ∀ source other : Text, source.lines.map Text.trimLeft = other.lines.map Text.trimLeft →
      Python.check source = Python.check other ∧ C.check source = C.check other := by
  refine ⟨fun source other h => ⟨Python.check_congr h, C.check_congr h, Java.check_congr h⟩,
    fun source => ?_, fun source other h => ?_⟩
  · have hlines := source.trim_lines_withCarriageReturns
    exact ⟨Python.check_congr hlines, C.check_congr hlines⟩
  · have hlines : source.lines.map Text.trim = other.lines.map Text.trim := by
      have hright := congrArg (List.map Text.trimRight) h
      rwa [List.map_map, List.map_map] at hright
    exact ⟨Python.check_congr hlines, C.check_congr hlines⟩

/-- An entry point whose head runs over two lines and which returns nothing, indented or not, with a
wide space or a carriage return at some line ends: all three reports of the C checker stay. -/
theorem check_eq_of_trimmed_lines_of_reindented_main :
    let source : Text := Text.ofString "int main(\n  )\n\x7b\n  if (x = 1)\n    y = x\n\x7d"
    let other : Text :=
      Text.ofString "\tint main(\u2003\n)\r\n \x7b\nif (x = 1)\n\ty = x\r\n\x7d\n"
    let indented : Text := Text.ofString "\tint main(\n)\n  \x7b\n    if (x = 1)\ny = x\n  \x7d"
    (source ++ Text.ofString "\n").lines.map Text.trim = other.lines.map Text.trim ∧
      source.lines.map Text.trimLeft = indented.lines.map Text.trimLeft ∧
      (C.check other).length = 3 ∧
      C.check (source ++ Text.ofString "\n") = C.check other ∧
      C.check source = C.check indented := by
  intro source other indented
  have htrim : (source ++ Text.ofString "\n").lines.map Text.trim = other.lines.map Text.trim := by
    decide +kernel
  have htrimLeft : source.lines.map Text.trimLeft = indented.lines.map Text.trimLeft := by
    decide +kernel
  exact ⟨htrim, htrimLeft, by decide +kernel, (check_eq_of_trimmed_lines.1 _ _ htrim).2.1,
    (check_eq_of_trimmed_lines.2.2 _ _ htrimLeft).2⟩

end SnippetReview
