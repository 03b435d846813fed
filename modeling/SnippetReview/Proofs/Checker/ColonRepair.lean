import SnippetReview.Proofs.Checker.Spacing

/-!
Following the advice about a missing colon. A colon behind the last visible character of the
reported line takes just that report away. No other rule counts or looks for colons, and a colon is
neither a blank nor a word character, so that behind something visible it completes nothing that a
rule looks for. Of the two rules that ask for colons at most one fires on a line.
-/

set_option autoImplicit false

namespace SnippetReview

private theorem filter_not_eq_erase {α : Type} [DecidableEq α] {p : α → Bool} {l : List α} {a : α}
    (ha : a ∈ l) (hp : p a = true) (hone : (l.filter p).length ≤ 1) :
    l.filter (!p ·) = l.erase a := by
  induction l with
  | nil => simp at ha
  | cons b l ih =>
    by_cases hb : p b = true
    · rw [List.filter_cons_of_pos hb, List.length_cons] at hone
      have hnone : l.filter p = [] := List.eq_nil_of_length_eq_zero (by omega)
      rw [List.filter_eq_nil_iff] at hnone
      have hab : a = b := by
        rcases List.mem_cons.mp ha with rfl | hmem
        · rfl
        · exact absurd hp (hnone a hmem)
      rw [hab, List.filter_cons_of_neg (by simp [hb]), List.erase_cons_head]
      exact List.filter_eq_self.mpr fun c hc => by simpa using hnone c hc
    · have hne : b ≠ a := by
        rintro rfl
        exact hb hp
      rw [List.filter_cons_of_neg hb] at hone
      rw [List.filter_cons_of_pos (by simpa using hb), List.erase_cons_tail (by simpa using hne),
        ih ((List.mem_cons.mp ha).resolve_left hne.symm) hone]

namespace Python

open Cursor Pattern

abbrev colon : Text := [CodePoint.ofChar ':']

def isColonReport (d : Diagnostic) : Bool :=
  (Text.ofString "must end with a colon (:)").isSuffixOf d.message

private theorem isColonReport_ofLine (number : Int) (message hint : Text) :
    isColonReport (Diagnostic.ofLine number message hint) =
      (Text.ofString "must end with a colon (:)").isSuffixOf message :=
  rfl

theorem isColonReport_colonMessage (number : Int) (keyword hint : Text) :
    isColonReport (Diagnostic.ofLine number (colonMessage keyword) hint) = true := by
  have htail : Text.ofString "must end with a colon (:)" <:+
      Text.ofString "' statement must end with a colon (:)" := by
    decide
  rw [isColonReport_ofLine, List.isSuffixOf_iff_suffix]
  exact htail.trans (List.suffix_append _ _)

section Rules

/-- A rule leaves colons alone: its reports do not ask for one, and one behind the visible end of a
line makes no difference to it. -/
structure IgnoresColon (rule : LineRule) : Prop where
  silent : ∀ line trimmed number, isColonReport (rule.report line trimmed number) = false
  same : ∀ text : Text, (∀ b, text.getLast? = some b → b.isBlank = false) →
    rule.fires (text ++ colon) (text ++ colon) = rule.fires text text ∧
      ∀ number, rule.report (text ++ colon) (text ++ colon) number = rule.report text text number

/-- A rule asks for a colon, and is content with one at the end of a line. -/
structure AsksForColon (rule : LineRule) : Prop where
  asks : ∀ line trimmed number, isColonReport (rule.report line trimmed number) = true
  content : ∀ text : Text, rule.fires (text ++ colon) (text ++ colon) = false

private theorem colon_isWord : (CodePoint.ofChar ':').isWord = false :=
  (CodePoint.isWord_of_ascii (by decide)).trans (by decide)

private theorem endsWithAny_append_colon (text : Text) :
    Text.endsWithAny [":"] (text ++ colon) = true := by
  rw [Text.endsWithAny, List.any_cons, Bool.or_eq_true, List.isSuffixOf_iff_suffix]
  exact Or.inl (List.suffix_append text colon)

private theorem occursIn_append_colon {needle : Text} (hne : needle ≠ [])
    (hcolon : CodePoint.ofChar ':' ∉ needle) (text : Text) :
    Text.occursIn needle (text ++ colon) = Text.occursIn needle text := by
  have hright : ∀ c ∈ needle, c ∉ colon := by
    intro c hc hmem
    rw [List.mem_singleton] at hmem
    exact hcolon (hmem ▸ hc)
  exact @Text.occursIn_padded needle [] colon hne (by simp) hright text

private theorem exists_blank_of_matches_gap {lead : Pattern} {accepts : CodePoint → Bool}
    {before : Option CodePoint} {matched rest : Text}
    (h : (lead ++ gap ++ one accepts).Matches before matched rest) :
    ∃ front c, matched = front ++ [c] ∧ ∃ b, front.getLast? = some b ∧ b.isBlank = true := by
  obtain ⟨front, last, rfl, hfront, hlast⟩ := matches_append.mp h
  obtain ⟨c, rfl, -⟩ := matches_one.mp hlast
  obtain ⟨word, blank, rfl, -, hgap⟩ := matches_append.mp hfront
  obtain ⟨hne, hblank⟩ := matches_gap.mp hgap
  refine ⟨word ++ blank, c, rfl, blank.getLast hne, ?_, hblank _ (List.getLast_mem hne)⟩
  rw [List.getLast?_append_of_ne_nil _ hne, List.getLast?_eq_some_getLast hne]

private theorem ignoresColon_printRule : IgnoresColon printRule where
  silent := fun _ _ _ => (isColonReport_ofLine ..).trans (by decide)
  same := by
    intro text hvisible
    have hpattern : printPattern.occursIn (text ++ colon) = printPattern.occursIn text := by
      refine occursIn_append_mark colon_isWord (by decide) (fun h => ?_) hvisible
      obtain ⟨front, c, hmatched, hblank⟩ := exists_blank_of_matches_gap h
      exact ⟨front, c, hmatched, fun _ => hblank⟩
    have hcall : Text.occursIn "print(" (text ++ colon) = Text.occursIn "print(" text :=
      occursIn_append_colon (by decide) (by decide) text
    exact ⟨by simp only [printRule, hpattern, hcall], fun _ => rfl⟩

private theorem ignoresColon_openRule : IgnoresColon Condition.openRule where
  silent := by
    intro line trimmed number
    have htail : Text.ofString " condition" <:+
        (Condition.openRule.report line trimmed number).message :=
      List.suffix_append _ _
    have happart : ¬ Text.ofString "must end with a colon (:)" <:+ Text.ofString " condition" ∧
        ¬ Text.ofString " condition" <:+ Text.ofString "must end with a colon (:)" := by
      decide +kernel
    rw [isColonReport, Bool.eq_false_iff, ne_eq, List.isSuffixOf_iff_suffix]
    intro h
    exact (List.suffix_or_suffix_of_suffix h htail).elim happart.1 happart.2
  same := by
    intro text hvisible
    have hpattern : Condition.openPattern.occursIn (text ++ colon) =
        Condition.openPattern.occursIn text := by
      refine occursIn_append_mark colon_isWord (by decide) (fun h => ?_) hvisible
      obtain ⟨head, tail, rfl, -, htail⟩ := matches_append.mp h
      obtain ⟨front, last, rfl, hfront, hlast⟩ := matches_append.mp htail
      obtain ⟨c, rfl, -⟩ := matches_one.mp hlast
      obtain ⟨sign, blank, rfl, -, hblank⟩ := matches_append.mp hfront
      obtain ⟨b, rfl, hb⟩ := matches_one.mp hblank
      exact ⟨head ++ (sign ++ [b]), c, by simp, fun _ => ⟨b, by simp, hb⟩⟩
    have hkeywords : ∀ word ∈ Condition.openKeywords, Text.IsWord word := by
      decide +kernel
    have hkeyword : Condition.keyword? Condition.openKeywords (text ++ colon) =
        Condition.keyword? Condition.openKeywords text :=
      @Condition.keyword?_padded _ hkeywords [] colon (by simp)
        (List.forall_mem_singleton.mpr colon_isWord) text
    refine ⟨hpattern, fun number => ?_⟩
    simp only [Condition.openRule, Condition.keyword, hkeyword]

private theorem asksFinish_bareCallPattern (function : Text) :
    (bareCallPattern function).asksFinish = false := by
  have hexactly : (exactly function).asksFinish = false := by
    induction function with
    | nil => rfl
    | cons c function ih => exact ih
  change (((false || (exactly function).asksFinish) || false) || false) = false
  rw [hexactly]
  rfl

private theorem ignoresColon_bareCallRule {function advice : Text}
    (hfunction : CodePoint.ofChar ':' ∉ function)
    (hsilent : ∀ number, isColonReport ((bareCallRule function advice).report [] [] number) =
      false) : IgnoresColon (bareCallRule function advice) where
  silent := fun _ _ number => hsilent number
  same := by
    intro text hvisible
    have hpattern : (bareCallPattern function).occursIn (text ++ colon) =
        (bareCallPattern function).occursIn text := by
      refine occursIn_append_mark colon_isWord ?_ (fun h => ?_) hvisible
      · exact asksFinish_bareCallPattern function
      · obtain ⟨head, word, rfl, -, hword⟩ := matches_append.mp h
        obtain ⟨hne, hletters⟩ := matches_atLeastOne.mp hword
        refine ⟨head ++ word.dropLast, word.getLast hne, ?_, fun hc => ?_⟩
        · rw [List.append_assoc, List.dropLast_append_getLast]
        · have hlast := hletters _ (List.getLast_mem hne)
          rw [hc, colon_isWord] at hlast
          exact absurd hlast Bool.false_ne_true
    have hcall : Text.occursIn (function ++ Text.ofString "(") (text ++ colon) =
        Text.occursIn (function ++ Text.ofString "(") text := by
      refine occursIn_append_colon (by simp [Text.ofString]) ?_ text
      rw [List.mem_append, not_or]
      exact ⟨hfunction, by decide⟩
    exact ⟨by simp only [bareCallRule, hpattern, hcall], fun _ => rfl⟩

private theorem ignoresColon_lineRule {bracket : Bracket}
    (hopening : bracket.opening ≠ CodePoint.ofChar ':')
    (hclosing : bracket.closing ≠ CodePoint.ofChar ':')
    (hsilent : ∀ number, isColonReport (bracket.lineRule.report [] [] number) = false) :
    IgnoresColon bracket.lineRule where
  silent := fun _ _ number => hsilent number
  same := by
    intro text _
    have hcount : ∀ c : CodePoint, c ≠ CodePoint.ofChar ':' →
        (text ++ colon).count c = text.count c := by
      intro c hc
      rw [List.count_append, List.count_singleton, if_neg (by simpa using hc.symm), Nat.add_zero]
    refine ⟨?_, fun _ => rfl⟩
    simp only [Bracket.lineRule, Bracket.isUnbalanced, hcount _ hopening, hcount _ hclosing]

private theorem asksForColon_blockColonRule : AsksForColon blockColonRule where
  asks := fun _ _ _ => isColonReport_colonMessage ..
  content := by
    intro text
    simp only [blockColonRule, endsWithAny_append_colon, Bool.not_true, Bool.and_false,
      Bool.false_and]

private theorem asksForColon_loneColonRule : AsksForColon loneColonRule where
  asks := fun _ _ _ => isColonReport_colonMessage ..
  content := by
    intro text
    simp only [loneColonRule, endsWithAny_append_colon, Bool.not_true, Bool.and_false]

theorem ignoresColon_of_mem_rules : ∃ before behind,
    rules = before ++ [blockColonRule, loneColonRule] ++ behind ∧
      (∀ rule ∈ before, IgnoresColon rule) ∧ ∀ rule ∈ behind, IgnoresColon rule := by
  have hlen : IgnoresColon
      (bareCallRule "len" "Use: len(variable) with parentheses, not len variable") :=
    ignoresColon_bareCallRule (by decide) fun _ => (isColonReport_ofLine ..).trans (by decide)
  have hrange : IgnoresColon
      (bareCallRule "range" "Use: range(10) with parentheses, not range 10") :=
    ignoresColon_bareCallRule (by decide) fun _ => (isColonReport_ofLine ..).trans (by decide)
  have hparentheses : IgnoresColon Bracket.parentheses.lineRule :=
    ignoresColon_lineRule (by decide) (by decide)
      fun _ => (isColonReport_ofLine ..).trans (by decide)
  have hbrackets : IgnoresColon Bracket.brackets.lineRule :=
    ignoresColon_lineRule (by decide) (by decide)
      fun _ => (isColonReport_ofLine ..).trans (by decide)
  have hbraces : IgnoresColon Bracket.braces.lineRule :=
    ignoresColon_lineRule (by decide) (by decide)
      fun _ => (isColonReport_ofLine ..).trans (by decide)
  refine ⟨[printRule], _, rfl, List.forall_mem_singleton.mpr ignoresColon_printRule, ?_⟩
  simp only [List.forall_mem_cons]
  exact ⟨ignoresColon_openRule, hlen, hrange, hparentheses, hbrackets, hbraces, by simp⟩

end Rules

section Keywords

variable (text : Text)

theorem leadingWord_trim : leadingWord text.trim = text.trim.takeWhile CodePoint.isWord := by
  have hmem : start text.trim ∈ blanks.ends (start text.trim) :=
    mem_ends_iff.mpr ⟨[], rfl, rfl, matches_blanks.mpr (by simp)⟩
  have hunique : ∀ later ∈ blanks.ends (start text.trim), later = start text.trim := by
    intro later hlater
    obtain ⟨passed, hpassed, hbefore, hblank⟩ := mem_ends_iff.mp hlater
    rw [matches_blanks] at hblank
    have hnil : passed = [] := by
      cases passed with
      | nil => rfl
      | cons c passed =>
        have hvisible : c.isBlank = false := Text.isBlank_head_trim (by rw [hpassed]; rfl)
        rw [hblank c List.mem_cons_self] at hvisible
        exact absurd hvisible.symm Bool.false_ne_true
    subst hnil
    cases later
    simp_all [start]
  rw [leadingWord]
  by_cases hstart : text.trim.head?.any CodePoint.isWord = true
  · rw [partAfter_atLeastOne hmem hunique hstart, Option.getD_some]
    rfl
  · rw [partAfter_eq hmem hunique]
    cases htrim : text.trim with
    | nil => rfl
    | cons c more =>
      have hc : c.isWord = false := by
        simpa [htrim] using hstart
      simp [start, atLeastOne, ends, hc]

theorem blockPattern_trim_iff : blockPattern.matchesStart text.trim = true ↔
    text.trim.takeWhile CodePoint.isWord ∈ blockKeywords := by
  have hkeywords : ∀ word ∈ blockKeywords, Text.IsWord word := by
    decide +kernel
  rw [blockPattern, matchesStart_append_assoc, matchesStart_blanks_append (by decide)
    fun h => (isWord_of_matches_blockKeyword h).isVisible.exists_head, Text.trimLeft_trim,
    matchesStart, Bool.not_eq_true', List.isEmpty_eq_false_iff_exists_mem]
  constructor
  · rintro ⟨later, hlater⟩
    exact ((Condition.mem_ends_keyword_iff hkeywords).mp hlater).2
  · intro hword
    exact ⟨_, (Condition.mem_ends_keyword_iff hkeywords).mpr ⟨rfl, hword⟩⟩

theorem exists_of_lonePattern_trim (h : lonePattern.matchesStart text.trim = true) :
    ∃ word ∈ loneKeywords, word <+: text.trim.takeWhile CodePoint.isWord := by
  rw [lonePattern, matchesStart_append_blanks, matchesStart_blanks_append (by decide)
    fun h => (isWord_of_matches_loneKeyword h).isVisible.exists_head, Text.trimLeft_trim,
    matchesStart_iff] at h
  obtain ⟨word, rest, htext, hmatch⟩ := h
  refine ⟨word, matches_oneOf.mp hmatch, ?_⟩
  rw [htext, List.takeWhile_append_of_pos (isWord_of_matches_loneKeyword hmatch).2]
  exact List.prefix_append word _

theorem mem_loneKeywords_of_start : ∀ keyword ∈ blockKeywords, ∀ lone ∈ loneKeywords,
    lone <+: keyword → keyword ∈ loneKeywords := by
  decide +kernel

private theorem loneColonRule_eq_false (h : blockColonRule.fires text.trim text.trim = true) :
    loneColonRule.fires text.trim text.trim = false := by
  simp only [blockColonRule, Bool.and_eq_true, Bool.not_eq_true'] at h
  obtain ⟨⟨hblock, -⟩, hlone⟩ := h
  rw [blockPattern_trim_iff] at hblock
  rw [leadingWord_trim, List.contains_eq_mem, decide_eq_false_iff_not] at hlone
  rw [Bool.eq_false_iff]
  intro hfires
  simp only [loneColonRule, Bool.and_eq_true] at hfires
  obtain ⟨word, hword, hprefix⟩ := exists_of_lonePattern_trim text hfires.1
  exact hlone (mem_loneKeywords_of_start _ hblock word hword hprefix)

end Keywords

section Line

variable (number : Int) (line : Text)

/-- A colon behind the last visible character of a line answers the reports that ask for one, and
changes no other. -/
private theorem checkLine_attach_colon (hline : line.trim ≠ []) :
    LineRule.checkLine rules skips number (line.attach colon) =
      (LineRule.checkLine rules skips number line).filter (!isColonReport ·) := by
  have hcolon : Text.IsVisible colon := by
    decide
  have htrim := Text.trim_attach hline hcolon
  have hvisible : ∀ b, line.trim.getLast? = some b → b.isBlank = false :=
    fun b hb => Text.isBlank_last_trim hb
  have hskips : skips (line.trim ++ colon) = skips line.trim := by
    obtain ⟨c, more, hcons⟩ := List.exists_cons_of_ne_nil hline
    rw [hcons]
    rfl
  rw [← LineRule.checkLine_trim seesTrimmed_of_mem_rules number line,
    ← LineRule.checkLine_trim seesTrimmed_of_mem_rules number (line.attach colon)]
  refine LineRule.checkLine_eq_filter ?_ fun rule hrule => ?_
  · rw [Text.trim_trim, Text.trim_trim, htrim, hskips]
  rw [Text.trim_trim, Text.trim_trim, htrim]
  obtain ⟨before, behind, hrules, hbefore, hbehind⟩ := ignoresColon_of_mem_rules
  have hignores : IgnoresColon rule →
      (!isColonReport (rule.report line.trim line.trim number)) = true ∧
        rule.fires (line.trim ++ colon) (line.trim ++ colon) =
          rule.fires line.trim line.trim ∧
        rule.report (line.trim ++ colon) (line.trim ++ colon) number =
          rule.report line.trim line.trim number := by
    intro h
    obtain ⟨hfires, hreport⟩ := h.same line.trim hvisible
    exact ⟨by rw [h.silent, Bool.not_false], hfires, hreport number⟩
  have hasks : AsksForColon rule →
      (!isColonReport (rule.report line.trim line.trim number)) = false ∧
        rule.fires (line.trim ++ colon) (line.trim ++ colon) = false :=
    fun h => ⟨by rw [h.asks, Bool.not_true], h.content line.trim⟩
  rw [hrules, List.mem_append, List.mem_append] at hrule
  rcases hrule with (hrule | hrule) | hrule
  · exact Or.inl (hignores (hbefore rule hrule))
  · simp only [List.mem_cons, List.not_mem_nil, or_false] at hrule
    rcases hrule with rfl | rfl
    · exact Or.inr (hasks asksForColon_blockColonRule)
    · exact Or.inr (hasks asksForColon_loneColonRule)
  · exact Or.inl (hignores (hbehind rule hrule))

theorem filter_isColonReport_checkLine :
    (LineRule.checkLine rules skips number line).filter isColonReport =
      LineRule.checkLine [blockColonRule, loneColonRule] skips number line := by
  obtain ⟨before, behind, hrules, hbefore, hbehind⟩ := ignoresColon_of_mem_rules
  have hsilent : ∀ {others : List LineRule}, (∀ rule ∈ others, IgnoresColon rule) →
      (LineRule.checkLine others skips number line).filter isColonReport = [] := by
    intro others hothers
    rw [List.filter_eq_nil_iff]
    intro d hd
    obtain ⟨rule, hrule, rfl⟩ := LineRule.exists_of_mem_checkLine hd
    rw [(hothers rule hrule).silent]
    exact Bool.false_ne_true
  have hasks : (LineRule.checkLine [blockColonRule, loneColonRule] skips number line).filter
      isColonReport = LineRule.checkLine [blockColonRule, loneColonRule] skips number line := by
    rw [List.filter_eq_self]
    intro d hd
    obtain ⟨rule, hrule, rfl⟩ := LineRule.exists_of_mem_checkLine hd
    simp only [List.mem_cons, List.not_mem_nil, or_false] at hrule
    rcases hrule with rfl | rfl
    · exact asksForColon_blockColonRule.asks ..
    · exact asksForColon_loneColonRule.asks ..
  rw [hrules, LineRule.checkLine_append, LineRule.checkLine_append, List.filter_append,
    List.filter_append, hsilent hbefore, hsilent hbehind, hasks, List.nil_append, List.append_nil]

private theorem length_filter_checkLine_le_one :
    ((LineRule.checkLine rules skips number line).filter isColonReport).length ≤ 1 := by
  rw [← LineRule.checkLine_trim seesTrimmed_of_mem_rules, filter_isColonReport_checkLine,
    LineRule.checkLine, Text.trim_trim]
  split
  · simp
  · cases hblock : blockColonRule.fires line.trim line.trim with
    | true => simp [hblock, loneColonRule_eq_false line hblock]
    | false =>
      rw [List.length_map, List.filter_cons_of_neg (by simp [hblock])]
      exact List.length_filter_le _ _

end Line

theorem namesLine_of_mem_rules : ∀ rule ∈ rules, rule.NamesLine := by
  simp only [rules, List.forall_mem_cons]
  exact ⟨fun _ _ _ => rfl, fun _ _ _ => rfl, fun _ _ _ => rfl, fun _ _ _ => rfl,
    fun _ _ _ => rfl, fun _ _ _ => rfl, fun _ _ _ => rfl, fun _ _ _ => rfl, fun _ _ _ => rfl,
    by simp⟩

private theorem length_filter_checkLines_le_one (first number : Int) (lines : List Text) :
    ((LineRule.checkLines rules skips first lines).filter
      fun d => isColonReport d && d.line = some number).length ≤ 1 := by
  by_cases hnone : (LineRule.checkLines rules skips first lines).filter
      (fun d => isColonReport d && d.line = some number) = []
  · rw [hnone]
    exact Nat.zero_le 1
  · obtain ⟨d, hd⟩ := List.exists_mem_of_ne_nil _ hnone
    obtain ⟨hmem, hkept⟩ := List.mem_filter.mp hd
    rw [Bool.and_eq_true, decide_eq_true_eq] at hkept
    obtain ⟨front, line, back, rfl, hline⟩ := LineRule.exists_of_mem_checkLines hmem
    have hnumber : first + front.length = number := by
      rw [LineRule.line_of_mem_checkLine namesLine_of_mem_rules hline] at hkept
      exact Option.some.inj hkept.2
    rw [← hnumber, ← List.filter_filter,
      LineRule.filter_checkLines_eq_checkLine namesLine_of_mem_rules]
    exact length_filter_checkLine_le_one (first + front.length) line

/-- Following the hint about a missing colon fixes just that problem. For each report that asks for
a colon there is a line that it is about, and with a colon behind the last visible character of that
line the diagnostics are the old ones without the report. No line gets two such reports. -/
theorem attachToLine_colon_fixes_report :
    (∀ source : Text, ∀ d ∈ check source, isColonReport d = true → ∃ number : Nat, 1 ≤ number ∧
      number ≤ source.lines.length ∧ d.line = some ↑number ∧
        check (source.attachToLine number colon) = (check source).erase d) ∧
    ∀ (source : Text) (number : Int),
      ((check source).filter fun d => isColonReport d && d.line = some number).length ≤ 1 := by
  constructor
  · intro source d hd hreport
    obtain ⟨front, line, back, hlines, hmem⟩ := LineRule.exists_of_mem_checkLines hd
    have hline : line.trim ≠ [] := by
      intro hnil
      rw [LineRule.checkLine, hnil] at hmem
      exact List.not_mem_nil hmem
    have herase := (checkLine_attach_colon (1 + front.length) line hline).trans
      (filter_not_eq_erase hmem hreport (length_filter_checkLine_le_one _ line))
    refine ⟨front.length + 1, by omega, by rw [hlines]; simp, ?_, ?_⟩
    · rw [LineRule.line_of_mem_checkLine namesLine_of_mem_rules hmem, Int.add_comm]
      rfl
    · rw [check, check, LineRule.check, LineRule.check, Text.lines_attachToLine (by decide),
        hlines, Nat.add_sub_cancel]
      exact LineRule.checkLines_modify_eq_erase namesLine_of_mem_rules hmem herase
  · intro source number
    exact length_filter_checkLines_le_one 1 number source.lines

/-- Two reported lines among others: a condition with an assignment, `len` without a call and an
open parenthesis, a wide space at its end, and a lone keyword with a statement, a tab at its end. -/
theorem attachToLine_colon_fixes_report_of_two_lines :
    let source : Text :=
      Text.ofString "x = 1\n  if len xs = (5\u2003\nelse print x\t\r\nprint y"
    (check source).length = 7 ∧
      (∃ d ∈ check source, isColonReport d = true ∧ d.line = some 2 ∧
        check (source.attachToLine 2 colon) = (check source).erase d) ∧
      ∃ d ∈ check source, isColonReport d = true ∧ d.line = some 3 ∧
        check (source.attachToLine 3 colon) = (check source).erase d := by
  intro source
  have hreports : (check source).length = 7 ∧
      (∃ d ∈ check source, isColonReport d = true ∧ d.line = some 2) ∧
      ∃ d ∈ check source, isColonReport d = true ∧ d.line = some 3 := by
    decide +kernel
  have hfix : ∀ line : Int, (∃ d ∈ check source, isColonReport d = true ∧ d.line = some line) →
      ∃ d ∈ check source, isColonReport d = true ∧ d.line = some line ∧
        check (source.attachToLine line.toNat colon) = (check source).erase d := by
    rintro line ⟨d, hd, hreport, hline⟩
    obtain ⟨number, -, -, hnumber, hcheck⟩ :=
      attachToLine_colon_fixes_report.1 source d hd hreport
    rw [hline, Option.some.injEq] at hnumber
    exact ⟨d, hd, hreport, hline, by rw [hnumber]; exact hcheck⟩
  exact ⟨hreports.1, hfix 2 hreports.2.1, hfix 3 hreports.2.2⟩

end Python

end SnippetReview
