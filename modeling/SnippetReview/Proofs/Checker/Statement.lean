import SnippetReview.Checker.C
import SnippetReview.Checker.Java
import SnippetReview.Proofs.Rule.Firing
import SnippetReview.Proofs.Rule.Semicolon

/-!
Which lines lack a semicolon. What looks like a statement of C or of Java begins with a word and
ends like an expression, so that of all the lines that are exempt or skipped only those that begin
with certain words would be reported otherwise.
-/

set_option autoImplicit false

namespace SnippetReview

open Text

namespace Semicolon.Style

structure Spans (style : Style) : Prop where
  statement : ∀ (line : Text), ∀ pattern ∈ style.statements,
    pattern.matchesStart line.trim = true → IsSpanned line.trim
  structural : ∀ text ∈ style.structural, text.head?.any CodePoint.isWord = false

variable {style : Style} {line : Text}

theorem Spans.isSpanned (h : style.Spans) (hlacks : style.lacksSemicolon line.trim = true) :
    IsSpanned line.trim := by
  rw [lacksSemicolon, Bool.and_eq_true, Bool.and_eq_true, List.any_eq_true] at hlacks
  obtain ⟨⟨-, pattern, hpattern, hmatch⟩, -⟩ := hlacks
  exact h.statement line pattern hpattern hmatch

private theorem Spans.not_mem_structural (h : style.Spans) (hspanned : IsSpanned line.trim) :
    line.trim ∉ style.structural := by
  intro hmem
  have hhead := hspanned.head
  rw [h.structural _ hmem] at hhead
  cases hhead

/-- Beside looking like a statement, only the word at the start of a line makes a difference. -/
theorem Spans.lacksSemicolon_iff (h : style.Spans) : style.lacksSemicolon line.trim = true ↔
    (∃ pattern ∈ style.statements, pattern.matchesStart line.trim = true) ∧
      line.trim.startsWithAny controlWords = false := by
  rw [lacksSemicolon, Bool.and_eq_true, Bool.and_eq_true, List.any_eq_true]
  constructor
  · rintro ⟨⟨hexempt, hmatch⟩, -⟩
    refine ⟨hmatch, ?_⟩
    rw [isExempt, Bool.not_eq_true', Bool.or_eq_false_iff, Bool.or_eq_false_iff] at hexempt
    exact hexempt.1.2
  · rintro ⟨⟨pattern, hpattern, hmatch⟩, hwords⟩
    have hspanned := h.statement line pattern hpattern hmatch
    have hstructural := h.not_mem_structural hspanned
    have hopens : line.trim.endsWithAny ["\x7b"] = false :=
      hspanned.endsWithAny_eq_false (by decide)
    have hends : line.trim.endsWithAny [";", ","] = false :=
      hspanned.endsWithAny_eq_false (by decide)
    exact ⟨⟨by simp [isExempt, hstructural, hwords, hopens], pattern, hpattern, hmatch⟩,
      by simp [hends]⟩

end Semicolon.Style

namespace C

open Semicolon

theorem spans_semicolons : semicolons.Spans := by
  refine ⟨fun line => ?_, by decide +kernel⟩
  have hvisible : ∀ c, line.trim.getLast? = some c → c.isBlank = false := fun c => isBlank_last_trim
  simp only [semicolons, List.forall_mem_cons]
  exact ⟨IsSpanned.of_declaration hvisible (by decide +kernel),
    IsSpanned.of_assignmentStatement hvisible, IsSpanned.of_callStatement hvisible,
    IsSpanned.of_namedCall hvisible (by decide +kernel), by simp⟩

theorem skips_eq_false_of_isSpanned {trimmed : Text} (h : IsSpanned trimmed) :
    skips trimmed = false := by
  rw [skips, h.isEmpty_eq_false, Bool.false_or]
  exact h.startsWithAny_eq_false (by decide +kernel)

end C

namespace Java

open Semicolon

theorem exists_of_modified {types : List Text} {text : Text}
    (hvisible : ∀ c, text.getLast? = some c → c.isBlank = false)
    (h : (modifier ++ Pattern.blanks ++ declaration types).matchesStart text = true) :
    ∃ modifiers gap type gap' value last,
      text = modifiers ++ (gap ++ (type ++ (gap' ++ (value ++ [last])))) ∧
        (IsWord modifiers ∨ modifiers = []) ∧ (∀ c ∈ gap, c.isBlank = true) ∧ type ∈ types ∧
          gap' ≠ [] ∧ (∀ c ∈ gap', c.isBlank = true) ∧ last.endsExpression = true := by
  obtain ⟨matched, rest, rfl, hmatch⟩ := Pattern.matchesStart_iff.mp h
  obtain ⟨lead, statement, rfl, hlead, hstatement⟩ := Pattern.matches_append.mp hmatch
  obtain ⟨modifiers, gap, rfl, hmodifiers, hgap⟩ := Pattern.matches_append.mp hlead
  have hbehind : ∀ c, (statement ++ rest).getLast? = some c → c.isBlank = false := by
    intro c hc
    refine hvisible c ?_
    rw [List.append_assoc, List.getLast?_append, hc, Option.some_or]
  obtain ⟨rfl, type, gap', value, last, rfl, htype, hne, hgap', -, hlast⟩ :=
    (matches_declaration hbehind).mp hstatement
  have hwords : ∀ text ∈ [Text.ofString "public", "private", "protected", "static"],
      IsWord text := by
    decide +kernel
  rw [modifier, Pattern.matches_optional, Pattern.matches_oneOf] at hmodifiers
  exact ⟨modifiers, gap, type, gap', value, last, by simp,
    hmodifiers.imp_left (hwords modifiers), Pattern.matches_blanks.mp hgap, htype, hne, hgap',
    hlast⟩

private theorem isSpanned_of_modified {types : List Text} {line : Text}
    (htypes : ∀ type ∈ types, IsWord type)
    (h : (modifier ++ Pattern.blanks ++ declaration types).matchesStart line.trim = true) :
    IsSpanned line.trim := by
  obtain ⟨modifiers, gap, type, gap', value, last, htrim, hmodifiers, hgap, htype, -, -, hlast⟩ :=
    exists_of_modified (fun c => isBlank_last_trim) h
  rcases hmodifiers with hword | rfl
  · have hsplit : line.trim = modifiers ++ ((gap ++ (type ++ (gap' ++ value))) ++ [last]) := by
      simp [htrim]
    rw [hsplit]
    exact IsSpanned.of_append hword.any_head hlast
  · -- Without a modifier there is no blank in front of the type, as the line is trimmed.
    cases gap with
    | nil =>
      rw [htrim, List.nil_append, List.nil_append, ← List.append_assoc gap']
      exact IsSpanned.of_append (htypes type htype).any_head hlast
    | cons c gap =>
      have hhead : line.trim.head? = some c := by
        rw [htrim]
        rfl
      have hblank := hgap c List.mem_cons_self
      rw [isBlank_head_trim hhead] at hblank
      cases hblank

theorem spans_semicolons : semicolons.Spans := by
  refine ⟨fun line => ?_, by decide +kernel⟩
  have hvisible : ∀ c, line.trim.getLast? = some c → c.isBlank = false := fun c => isBlank_last_trim
  simp only [semicolons, List.forall_mem_cons]
  exact ⟨isSpanned_of_modified (by decide +kernel), IsSpanned.of_assignmentStatement hvisible,
    IsSpanned.of_callStatement hvisible, IsSpanned.of_namedCall hvisible (by decide +kernel),
    by simp⟩

theorem skips_eq_of_isSpanned {trimmed : Text} (h : IsSpanned trimmed) :
    skips trimmed = trimmed.startsWithAny ["import", "package"] := by
  have hmarks : trimmed.startsWithAny ["//", "*", "@"] = false :=
    h.startsWithAny_eq_false (by decide +kernel)
  have hsplit : trimmed.startsWithAny ["//", "*", "@", "import", "package"] =
      (trimmed.startsWithAny ["//", "*", "@"] || trimmed.startsWithAny ["import", "package"]) := by
    simp [startsWithAny, Bool.or_assoc]
  rw [skips, h.isEmpty_eq_false, hsplit, hmarks, Bool.false_or, Bool.false_or]

end Java

namespace Semicolon

open LineRule

/-- The rule fires on spanned lines only, so that a filter may be judged by these. -/
private theorem check_rule_congr_skips {style : Style} (hspans : style.Spans)
    {skips skips' : Text → Bool}
    (hskips : ∀ trimmed, IsSpanned trimmed → skips trimmed = skips' trimmed) (source : Text) :
    check [style.rule] skips source = check [style.rule] skips' source := by
  refine check_congr_skips [style.rule] fun line rule hrule hfires => ?_
  obtain rfl := List.mem_singleton.mp hrule
  exact hskips line.trim (hspans.isSpanned hfires)

/-- A line of C or of Java is reported exactly if it looks like a statement and does not begin like
a control statement: what looks like a statement is no structure, and ends in a letter, a digit, an
underscore or a closing bracket. The filter for comments and directives takes no report away in C,
and in Java just those about lines that begin like a header. -/
theorem statements_exempt_by_first_word :
    (∀ style ∈ [C.semicolons, Java.semicolons], ∀ line : Text,
      (style.lacksSemicolon line.trim = true ↔
        (∃ pattern ∈ style.statements, pattern.matchesStart line.trim = true) ∧
          ∀ word ∈ controlWords, ¬ word <+: line.trim) ∧
      ∀ pattern ∈ style.statements, pattern.matchesStart line.trim = true →
        line.trim ∉ style.structural ∧ line.trim.endsWithAny ["\x7b", ";", ","] = false ∧
          ∃ last, line.trim.getLast? = some last ∧
            (last.isAsciiAlphanumeric = true ∨ last ∈ Text.ofString "_)]")) ∧
    (∀ source : Text,
      check [C.semicolons.rule] C.skips source = check [C.semicolons.rule] skipNone source) ∧
    ∀ source : Text, check [Java.semicolons.rule] Java.skips source =
      (check [Java.semicolons.rule] skipNone source).filter fun d =>
        !(source.lineOf d).any fun line => line.trim.startsWithAny ["import", "package"] := by
  refine ⟨fun style hstyle line => ?_, fun source => ?_, fun source => ?_⟩
  · have hspans : style.Spans := by
      simp only [List.mem_cons, List.not_mem_nil, or_false] at hstyle
      rcases hstyle with rfl | rfl
      · exact C.spans_semicolons
      · exact Java.spans_semicolons
    refine ⟨?_, fun pattern hpattern hmatch => ?_⟩
    · rw [hspans.lacksSemicolon_iff, startsWithAny, List.any_eq_false]
      simp only [List.isPrefixOf_iff_prefix]
    · have hspanned := hspans.statement line pattern hpattern hmatch
      refine ⟨hspans.not_mem_structural hspanned, hspanned.endsWithAny_eq_false (by decide), ?_⟩
      obtain ⟨last, hlast, hends⟩ := (Option.any_eq_true _ _).mp hspanned.last
      refine ⟨last, hlast, ?_⟩
      simpa [CodePoint.endsExpression, Text.ofString, or_assoc] using hends
  · exact check_rule_congr_skips C.spans_semicolons
      (fun trimmed h => C.skips_eq_false_of_isSpanned h) source
  · rw [check_rule_congr_skips Java.spans_semicolons
      (fun trimmed h => Java.skips_eq_of_isSpanned h) source]
    exact check_or_skips [Java.semicolons.rule] skipNone
      (List.forall_mem_singleton.mpr fun _ _ _ => rfl) _ source

/-- Of two assignments the first begins like a header, and the second ends in a bracket. -/
theorem statements_exempt_by_first_word_of_two_assignments :
    let source : Text := Text.ofString "important = 1\nx = y[2]"
    let line : Text := Text.ofString "x = y[2]"
    C.semicolons.lacksSemicolon line.trim = true ∧
    (∃ last, line.trim.getLast? = some last ∧
      (last.isAsciiAlphanumeric = true ∨ last ∈ Text.ofString "_)]")) ∧
    check [C.semicolons.rule] C.skips source = check [C.semicolons.rule] skipNone source ∧
    check [Java.semicolons.rule] Java.skips source =
      (check [Java.semicolons.rule] skipNone source).filter (fun d =>
        !(source.lineOf d).any fun line => line.trim.startsWithAny ["import", "package"]) ∧
    (check [Java.semicolons.rule] skipNone source).map (source.lineOf ·) = source.lines.map some ∧
    (check [Java.semicolons.rule] Java.skips source).map (source.lineOf ·) = [some line] := by
  intro source line
  have hstyle : C.semicolons ∈ [C.semicolons, Java.semicolons] := List.mem_cons_self
  have hpattern : assignmentStatement ∈ C.semicolons.statements := by
    simp [C.semicolons]
  have hmatch : assignmentStatement.matchesStart line.trim = true := by
    decide +kernel
  obtain ⟨hguards, hsource, hsource'⟩ := statements_exempt_by_first_word
  obtain ⟨hiff, hlines⟩ := hguards C.semicolons hstyle line
  exact ⟨hiff.mpr ⟨⟨assignmentStatement, hpattern, hmatch⟩, by decide⟩,
    (hlines assignmentStatement hpattern hmatch).2.2, hsource source, hsource' source,
    by decide +kernel, by decide +kernel⟩

end Semicolon

end SnippetReview
