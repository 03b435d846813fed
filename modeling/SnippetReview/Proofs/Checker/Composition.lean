import SnippetReview.Checker.C
import SnippetReview.Checker.Java
import SnippetReview.Checker.Python
import SnippetReview.Proofs.Rule.Basic
import SnippetReview.Proofs.Text.Basic

/-!
Sources put together and taken apart by lines. A rule about lines sees one line at a time and uses
its number for nothing but naming the line. So the reports about two sources, one below the other,
are those about the first and, under other numbers, those about the second; what is done to one line
does not show in the reports about the others.
-/

set_option autoImplicit false

namespace SnippetReview

def Diagnostic.renumber (f : Int → Int) (d : Diagnostic) : Diagnostic :=
  { d with line := d.line.map f }

private theorem Diagnostic.renumber_renumber (f g : Int → Int) (d : Diagnostic) :
    (d.renumber f).renumber g = d.renumber fun n => g (f n) := by
  simp only [renumber, Option.map_map, Function.comp_def]

private theorem Diagnostic.renumber_eq_self {f : Int → Int} (hf : ∀ n, f n = n) (d : Diagnostic) :
    d.renumber f = d := by
  obtain rfl : f = id := funext hf
  simp only [renumber, Option.map_id_fun, id_eq]

namespace LineRule

/-- A rule whose reports are about the line they are given, with a message and advice, neither of
them empty, that do not depend on its number. -/
def Located (rule : LineRule) : Prop :=
  ∃ message hint : Text → Text → Text, ∀ line trimmed,
    message line trimmed ≠ [] ∧ hint line trimmed ≠ [] ∧ ∀ number,
      rule.report line trimmed number =
        Diagnostic.ofLine number (message line trimmed) (hint line trimmed)

theorem Located.namesLine {rule : LineRule} (h : rule.Located) : rule.NamesLine := by
  obtain ⟨message, hint, hreport⟩ := h
  intro line trimmed number
  rw [(hreport line trimmed).2.2 number]
  rfl

private theorem Located.renumber_report {rule : LineRule} (h : rule.Located) (f : Int → Int)
    (line trimmed : Text) (number : Int) :
    (rule.report line trimmed number).renumber f = rule.report line trimmed (f number) := by
  obtain ⟨message, hint, hreport⟩ := h
  rw [(hreport line trimmed).2.2 number, (hreport line trimmed).2.2 (f number)]
  rfl

section Located

variable {rules : List LineRule} {skips : Text → Bool} (hrules : ∀ rule ∈ rules, rule.Located)

include hrules

private theorem checkLine_map_renumber (f : Int → Int) (number : Int) (line : Text) :
    (checkLine rules skips number line).map (Diagnostic.renumber f) =
      checkLine rules skips (f number) line := by
  rw [checkLine, checkLine]
  split
  · rfl
  · rw [List.map_map]
    refine List.map_congr_left fun rule hrule => ?_
    exact (hrules rule (List.mem_of_mem_filter hrule)).renumber_report f line line.trim number

/-- Renumbering the reports about some lines is numbering the lines from elsewhere on. -/
private theorem checkLines_map_renumber {f : Int → Int} {number other : Int} {lines : List Text}
    (hf : ∀ i : Nat, i < lines.length → f (number + i) = other + i) :
    (checkLines rules skips number lines).map (Diagnostic.renumber f) =
      checkLines rules skips other lines := by
  induction lines generalizing number other with
  | nil => rfl
  | cons line lines ih =>
    have hfirst : f number = other := by
      simpa using hf 0 (by simp)
    have hrest : ∀ i : Nat, i < lines.length → f (number + 1 + i) = other + 1 + i := by
      intro i hi
      have hnext := hf (i + 1) (by simpa using hi)
      push_cast at hnext
      rw [Int.add_assoc, Int.add_comm 1 (i : Int), hnext]
      omega
    rw [checkLines, List.map_append, checkLine_map_renumber hrules, hfirst, ih hrest, checkLines]

private theorem checkLines_insert_of_skipped {number : Int} {front back : List Text} {line : Text}
    (hline : skips line.trim = true) :
    checkLines rules skips number (front ++ line :: back) =
      (checkLines rules skips number (front ++ back)).map
        (Diagnostic.renumber fun n => if n < number + front.length then n else n + 1) := by
  have hnone : checkLine rules skips (number + front.length) line = [] := if_pos hline
  have hfront : ∀ i : Nat, i < front.length →
      (if number + i < number + front.length then number + i else number + i + 1) = number + i :=
    fun i hi => if_pos (by omega)
  have hback : ∀ i : Nat, i < back.length →
      (if number + front.length + i < number + front.length then number + front.length + i
        else number + front.length + i + 1) = number + front.length + 1 + i := by
    intro i _
    rw [if_neg (by omega)]
    omega
  rw [checkLines_append, checkLines_append, List.map_append, checkLines_map_renumber hrules hfront,
    checkLines_map_renumber hrules hback, checkLines, hnone, List.nil_append]

private theorem checkLines_delete_of_skipped {number : Int} {front back : List Text} {line : Text}
    (hline : skips line.trim = true) :
    checkLines rules skips number (front ++ back) =
      (checkLines rules skips number (front ++ line :: back)).map
        (Diagnostic.renumber fun n => if n < number + front.length then n else n - 1) := by
  rw [checkLines_insert_of_skipped hrules hline, List.map_map]
  refine (List.map_id'' (fun d => ?_) _).symm
  rw [Function.comp_apply, Diagnostic.renumber_renumber]
  refine Diagnostic.renumber_eq_self (fun n => ?_) d
  by_cases hn : n < number + front.length
  · rw [if_pos hn, if_pos hn]
  · rw [if_neg hn, if_neg (by omega), Int.add_sub_cancel]

private theorem filter_checkLines_replace {number : Int} {front back : List Text}
    (line other : Text) :
    (checkLines rules skips number (front ++ line :: back)).filter
        (·.line ≠ some (number + front.length)) =
      (checkLines rules skips number (front ++ other :: back)).filter
        (·.line ≠ some (number + front.length)) := by
  have hnone : ∀ text : Text, (checkLine rules skips (number + front.length) text).filter
      (·.line ≠ some (number + front.length)) = [] := by
    intro text
    rw [List.filter_eq_nil_iff]
    intro d hd
    simp [line_of_mem_checkLine (fun rule hrule => (hrules rule hrule).namesLine) hd]
  simp only [checkLines_append, checkLines, List.filter_append, hnone]

end Located

end LineRule

theorem Condition.located_bracketedRule : bracketedRule.Located := by
  refine ⟨_, _, fun line trimmed => ⟨?_, ?_, fun number => rfl⟩⟩
  · simp [message]
  · simp

private theorem Condition.located_openRule : openRule.Located := by
  refine ⟨_, _, fun line trimmed => ⟨?_, ?_, fun number => rfl⟩⟩
  · simp [message]
  · simp

theorem Semicolon.located_rule {style : Style} (hhint : style.hint ≠ []) : style.rule.Located := by
  refine ⟨_, _, fun line trimmed => ⟨?_, hhint, fun number => rfl⟩⟩
  simp

private theorem Bracket.located_lineRule (bracket : Bracket) : bracket.lineRule.Located := by
  refine ⟨_, _, fun line trimmed => ⟨?_, ?_, fun number => rfl⟩⟩
  · simp
  · simp

namespace Python

private theorem located_printRule : printRule.Located := by
  refine ⟨_, _, fun line trimmed => ⟨?_, ?_, fun number => rfl⟩⟩
  · simp
  · simp

private theorem located_blockColonRule : blockColonRule.Located := by
  refine ⟨_, _, fun line trimmed => ⟨?_, ?_, fun number => rfl⟩⟩
  · simp [colonMessage]
  · simp

private theorem located_loneColonRule : loneColonRule.Located := by
  refine ⟨_, _, fun line trimmed => ⟨?_, ?_, fun number => rfl⟩⟩
  · simp [colonMessage]
  · simp

private theorem located_bareCallRule {function advice : Text} (hadvice : advice ≠ []) :
    (bareCallRule function advice).Located := by
  refine ⟨_, _, fun line trimmed => ⟨?_, hadvice, fun number => rfl⟩⟩
  simp

theorem located_of_mem_rules : ∀ rule ∈ rules, rule.Located := by
  simp only [rules, List.forall_mem_cons]
  exact ⟨located_printRule, located_blockColonRule, located_loneColonRule,
    Condition.located_openRule, located_bareCallRule (by simp), located_bareCallRule (by simp),
    Bracket.located_lineRule _, Bracket.located_lineRule _, Bracket.located_lineRule _, by simp⟩

end Python

def lineRules : List LineRule :=
  Python.rules ++ C.lineRules ++ Java.lineRules

private theorem located_of_mem_lineRules : ∀ rule ∈ lineRules, rule.Located := by
  simp only [lineRules, C.lineRules, Java.lineRules, List.forall_mem_append, List.forall_mem_cons]
  exact ⟨⟨Python.located_of_mem_rules,
    ⟨Condition.located_bracketedRule, Semicolon.located_rule (by simp [C.semicolons]), by simp⟩⟩,
    ⟨Condition.located_bracketedRule, Semicolon.located_rule (by simp [Java.semicolons]), by simp⟩⟩

namespace LineRule

variable {rules : List LineRule} {skips : Text → Bool} (hrules : ∀ rule ∈ rules, rule.Located)
  {source line : Text} {number : Nat}

include hrules

private theorem check_append_newline (front back : Text) :
    check rules skips (front ++ CodePoint.ofChar '\n' :: back) =
      check rules skips front ++ (check rules skips back).map
        (Diagnostic.renumber (· + (front.count (CodePoint.ofChar '\n') + 1))) := by
  have hnumber : ∀ i : Nat, i < back.lines.length →
      (1 : Int) + i + (front.count (CodePoint.ofChar '\n') + 1) = 1 + front.lines.length + i := by
    intro i _
    have hlines := front.length_lines
    omega
  rw [check, check, check, Text.lines_append_cons_newline, checkLines_append,
    checkLines_map_renumber hrules hnumber]

private theorem filter_check_replaceLine (hnumber : 1 ≤ number)
    (hline : CodePoint.ofChar '\n' ∉ line) :
    (check rules skips (source.replaceLine number line)).filter (·.line ≠ some ↑number) =
      (check rules skips source).filter (·.line ≠ some ↑number) := by
  rw [check, check, Text.lines_replaceLine hline]
  by_cases hlast : number - 1 < source.lines.length
  · obtain ⟨front, back, hlines, hlength, hset⟩ := @List.exists_of_set _ _ line _ hlast
    have hplace : (number : Int) = 1 + front.length := by omega
    rw [hset, hplace]
    conv_rhs => rw [hlines]
    exact filter_checkLines_replace hrules line _
  · rw [List.set_eq_of_length_le (by omega)]

private theorem check_insertLine (hnumber : 1 ≤ number) (hlast : number ≤ source.lines.length + 1)
    (hline : CodePoint.ofChar '\n' ∉ line) (hskips : skips line.trim = true) :
    check rules skips (source.insertLine number line) = (check rules skips source).map
      (Diagnostic.renumber fun n => if n < number then n else n + 1) := by
  obtain ⟨front, back, hlines, hlength, hinsert⟩ :=
    List.exists_of_modifyTailIdx (List.cons line) (show number - 1 ≤ source.lines.length by omega)
  have hplace : (number : Int) = 1 + front.length := by omega
  rw [check, check, Text.lines_insertLine hline, List.insertIdx, hinsert, hlines, hplace]
  exact checkLines_insert_of_skipped hrules hskips

private theorem check_deleteLine (hnumber : 1 ≤ number)
    (hline : source.lines[number - 1]? = some line)
    (hskips : skips line.trim = true) (hempty : skips [] = true) :
    check rules skips (source.deleteLine number) = (check rules skips source).map
      (Diagnostic.renumber fun n => if n < number then n else n - 1) := by
  obtain ⟨hlast, hget⟩ := List.getElem?_eq_some_iff.mp hline
  obtain ⟨front, back, hlines, hlength, -⟩ := @List.exists_of_set _ _ line _ hlast
  rw [hget] at hlines
  have hplace : (number : Int) = 1 + front.length := by omega
  have herase : source.lines.eraseIdx (number - 1) = front ++ back := by
    rw [hlines, ← hlength, List.eraseIdx_append_of_length_le le_rfl, Nat.sub_self]
    rfl
  have hdelete : check rules skips (source.deleteLine number) =
      checkLines rules skips 1 (front ++ back) := by
    rw [check]
    rcases source.lines_deleteLine number with hkept | ⟨hnone, hkept⟩
    · rw [hkept, herase]
    · -- Nothing is left but the line of the empty text, and that is skipped.
      have hblank : checkLines rules skips 1 [[]] = [] := by
        rw [checkLines, checkLines, List.append_nil]
        exact if_pos hempty
      rw [herase] at hnone
      rw [hkept, hnone, hblank]
      rfl
  rw [hdelete, check, hlines, hplace]
  exact checkLines_delete_of_skipped hrules hskips

end LineRule

theorem Python.skips_iff {trimmed : Text} :
    skips trimmed = true ↔ trimmed = [] ∨ Text.ofString "#" <+: trimmed := by
  simp [skips, Text.startsWithAny]

/-- Lines are checked apart from each other. With rules from the tables, in any order, and with or
without the filter of a checker, a source below another gets the reports that it gets by itself,
about lines that are as much further down. So for Python another text in a line leaves the reports
about all other lines as they are, and a blank or commented line that is put in or taken out only
numbers those behind it anew. -/
theorem lines_are_checked_apart :
    (∀ rules : List LineRule, (∀ rule ∈ rules, rule ∈ lineRules) →
      ∀ skips ∈ [Python.skips, C.skips, Java.skips, LineRule.skipNone], ∀ front back : Text,
        LineRule.check rules skips (front ++ CodePoint.ofChar '\n' :: back) =
          LineRule.check rules skips front ++ (LineRule.check rules skips back).map
            (Diagnostic.renumber (· + (front.count (CodePoint.ofChar '\n') + 1)))) ∧
    (∀ front back : Text, Python.check (front ++ CodePoint.ofChar '\n' :: back) =
      Python.check front ++ (Python.check back).map
        (Diagnostic.renumber (· + (front.count (CodePoint.ofChar '\n') + 1)))) ∧
    (∀ (source line : Text) (number : Nat), 1 ≤ number → CodePoint.ofChar '\n' ∉ line →
      (Python.check (source.replaceLine number line)).filter (·.line ≠ some ↑number) =
        (Python.check source).filter (·.line ≠ some ↑number)) ∧
    (∀ (source line : Text) (number : Nat), 1 ≤ number → number ≤ source.lines.length + 1 →
      CodePoint.ofChar '\n' ∉ line → line.trim = [] ∨ Text.ofString "#" <+: line.trim →
        Python.check (source.insertLine number line) = (Python.check source).map
          (Diagnostic.renumber fun n => if n < number then n else n + 1)) ∧
    ∀ (source line : Text) (number : Nat), 1 ≤ number → source.lines[number - 1]? = some line →
      line.trim = [] ∨ Text.ofString "#" <+: line.trim →
        Python.check (source.deleteLine number) = (Python.check source).map
          (Diagnostic.renumber fun n => if n < number then n else n - 1) := by
  refine ⟨?_, ?_, ?_, ?_, ?_⟩
  · intro rules hrules skips _ front back
    have hlocated : ∀ rule ∈ rules, rule.Located :=
      fun rule hrule => located_of_mem_lineRules rule (hrules rule hrule)
    exact LineRule.check_append_newline hlocated front back
  · intro front back
    exact LineRule.check_append_newline Python.located_of_mem_rules front back
  · intro source line number hnumber hline
    exact LineRule.filter_check_replaceLine Python.located_of_mem_rules hnumber hline
  · intro source line number hnumber hlast hline hskips
    exact LineRule.check_insertLine Python.located_of_mem_rules hnumber hlast hline
      (Python.skips_iff.mpr hskips)
  · intro source line number hnumber hline hskips
    exact LineRule.check_deleteLine Python.located_of_mem_rules hnumber hline
      (Python.skips_iff.mpr hskips) rfl

/-- Rules of three tables on two blocks, the first of which ends with an empty line; and a comment
between two reported lines, which is replaced by code, taken out, and put in again. -/
theorem lines_are_checked_apart_of_two_blocks :
    let rules := [Java.semicolons.rule, Python.loneColonRule, C.semicolons.rule]
    let front : Text := Text.ofString "else x = 1\n"
    let back : Text := Text.ofString "imported = 2\n z = 3"
    let source : Text := Text.ofString "if x\n  # done\nwhile y"
    let shorter : Text := Text.ofString "if x\nwhile y"
    (LineRule.check rules C.skips (front ++ CodePoint.ofChar '\n' :: back) =
        LineRule.check rules C.skips front ++
          (LineRule.check rules C.skips back).map (Diagnostic.renumber (· + 2)) ∧
      (LineRule.check rules C.skips (front ++ CodePoint.ofChar '\n' :: back)).map (·.line) =
        [some 1, some 3, some 3, some 4, some 4]) ∧
    (Python.check (source.replaceLine 2 "else (")).filter (·.line ≠ some 2) =
      (Python.check source).filter (·.line ≠ some 2) ∧
    (shorter.insertLine 2 "  # done" = source ∧ Python.check source =
      (Python.check shorter).map (Diagnostic.renumber fun n => if n < 2 then n else n + 1)) ∧
    (source.deleteLine 2 = shorter ∧ Python.check shorter =
      (Python.check source).map (Diagnostic.renumber fun n => if n < 2 then n else n - 1)) ∧
    (Python.check source).map (·.line) = [some 1, some 3] := by
  intro rules front back source shorter
  have hrules : ∀ rule ∈ rules, rule ∈ lineRules := by
    simp [rules, lineRules, Python.rules, C.lineRules, Java.lineRules]
  have hskips : C.skips ∈ [Python.skips, C.skips, Java.skips, LineRule.skipNone] := by
    simp
  have hinsert : shorter.insertLine 2 "  # done" = source := by
    decide +kernel
  have hdelete : source.deleteLine 2 = shorter := by
    decide +kernel
  obtain ⟨happend, -, hreplace, hinserted, hdeleted⟩ := lines_are_checked_apart
  refine ⟨⟨happend rules hrules C.skips hskips front back, by decide +kernel⟩,
    hreplace source "else (" 2 (by decide) (by decide), ⟨hinsert, ?_⟩, ⟨hdelete, ?_⟩,
    by decide +kernel⟩
  · rw [← hinsert]
    exact hinserted shorter "  # done" 2 (by decide) (by decide) (by decide) (by decide)
  · rw [← hdelete]
    exact hdeleted source "  # done" 2 (by decide) (by decide) (by decide)

end SnippetReview
