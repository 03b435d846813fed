import SnippetReview.Proofs.Checker.ColonRepair

/-!
Which lines are asked for a colon. One rule asks for it behind the keywords of blocks, by the whole
word that a line starts with. The other one is for keywords that stand alone, and is content with a
word that merely starts with one of them.
-/

set_option autoImplicit false

namespace SnippetReview.Python

open Pattern

def headWord (line : Text) : Text :=
  line.trim.takeWhile CodePoint.isWord

def colonReports (source : Text) (number : Nat) : List Diagnostic :=
  (check source).filter fun d => isColonReport d && d.line = some ↑number

section Rules

variable (number : Int) (line : Text)

private theorem endsWithAny_colon_iff (text : Text) :
    Text.endsWithAny [":"] text = true ↔ colon <:+ text := by
  rw [Text.endsWithAny, List.any_cons, List.any_nil, Bool.or_false, List.isSuffixOf_iff_suffix]
  rfl

private theorem lonePattern_trim_iff (text : Text) : lonePattern.matchesStart text.trim = true ↔
    ∃ lone ∈ loneKeywords, lone <+: text.trim.takeWhile CodePoint.isWord := by
  refine ⟨exists_of_lonePattern_trim text, ?_⟩
  rintro ⟨lone, hlone, htail⟩
  obtain ⟨rest, htext⟩ := htail.trans (List.takeWhile_prefix CodePoint.isWord)
  rw [lonePattern, matchesStart_append_blanks, matchesStart_blanks_append (by decide)
    fun h => (isWord_of_matches_loneKeyword h).isVisible.exists_head, Text.trimLeft_trim,
    matchesStart_iff]
  exact ⟨lone, rest, htext.symm, matches_oneOf.mpr hlone⟩

theorem fires_blockColonRule_iff : blockColonRule.fires line line.trim = true ↔
    headWord line ∈ blockKeywords ∧ headWord line ∉ loneKeywords ∧ ¬ colon <:+ line.trim := by
  simp only [blockColonRule, Bool.and_eq_true, Bool.not_eq_true', Bool.eq_false_iff, ne_eq]
  rw [← blockPattern_trim, blockPattern_trim_iff, endsWithAny_colon_iff, leadingWord_trim,
    List.contains_iff_mem, headWord]
  tauto

theorem fires_loneColonRule_iff : loneColonRule.fires line line.trim = true ↔
    (∃ lone ∈ loneKeywords, lone <+: headWord line) ∧ ¬ colon <:+ line.trim := by
  simp only [loneColonRule, Bool.and_eq_true, Bool.not_eq_true', Bool.eq_false_iff, ne_eq]
  rw [← lonePattern_trim, lonePattern_trim_iff, endsWithAny_colon_iff, headWord]

private theorem headWord_eq_nil_of_skips (hskips : skips line.trim = true) :
    headWord line = [] := by
  rw [skips, Bool.or_eq_true, List.isEmpty_iff] at hskips
  rw [headWord]
  rcases hskips with hblank | hcomment
  · rw [hblank]
    rfl
  · rw [Text.startsWithAny, List.any_cons, List.any_nil, Bool.or_false, List.isPrefixOf_iff_prefix]
      at hcomment
    obtain ⟨rest, hrest⟩ := hcomment
    have hsign : (CodePoint.ofChar '#').isWord = false :=
      (CodePoint.isWord_of_ascii (by decide)).trans (by decide)
    rw [← hrest]
    exact List.takeWhile_cons_of_neg fun h => Bool.false_ne_true (hsign.symm.trans h)

private theorem length_checkLine_colonRules :
    (LineRule.checkLine [blockColonRule, loneColonRule] skips number line).length =
      if (headWord line ∈ blockKeywords ∨ ∃ lone ∈ loneKeywords, lone <+: headWord line) ∧
        ¬ colon <:+ line.trim then 1 else 0 := by
  rw [← List.singleton_append, LineRule.checkLine_append, List.length_append,
    LineRule.checkLine_singleton, LineRule.checkLine_singleton]
  simp only [fires_blockColonRule_iff, fires_loneColonRule_iff]
  cases hskips : skips line.trim with
  | true =>
    have hempty : [] ∉ blockKeywords ∧ ¬ ∃ lone ∈ loneKeywords, lone <+: ([] : Text) := by
      decide
    rw [headWord_eq_nil_of_skips line hskips, if_neg (fun h => Bool.noConfusion h.1),
      if_neg (fun h => Bool.noConfusion h.1), if_neg (fun h => h.1.elim hempty.1 hempty.2)]
    rfl
  | false =>
    by_cases hlone : ∃ lone ∈ loneKeywords, lone <+: headWord line
    · have hsilent : ¬ (headWord line ∈ blockKeywords ∧ headWord line ∉ loneKeywords ∧
          ¬ colon <:+ line.trim) := by
        rintro ⟨hblock, hapart, -⟩
        obtain ⟨lone, hmem, hstart⟩ := hlone
        exact hapart (mem_loneKeywords_of_start _ hblock lone hmem hstart)
      simp only [hsilent, hlone, true_and, or_true, and_false, if_false, List.length_nil,
        Nat.zero_add]
      split <;> rfl
    · have hword : headWord line ∉ loneKeywords :=
        fun h => hlone ⟨headWord line, h, List.prefix_rfl⟩
      simp only [hword, hlone, not_false_eq_true, true_and, false_and, or_false, if_false,
        List.length_nil, Nat.add_zero]
      split <;> rfl

end Rules

private theorem length_colonReports {source line : Text} {number : Nat} (hnumber : 1 ≤ number)
    (hline : source.lines[number - 1]? = some line) : (colonReports source number).length =
      if (headWord line ∈ blockKeywords ∨ ∃ lone ∈ loneKeywords, lone <+: headWord line) ∧
        ¬ colon <:+ line.trim then 1 else 0 := by
  obtain ⟨hplace, rfl⟩ := List.getElem?_eq_some_iff.mp hline
  have hfront : (1 : Int) + (source.lines.take (number - 1)).length = number := by
    rw [List.length_take_of_le hplace.le]
    omega
  have hlines : source.lines = source.lines.take (number - 1) ++
      source.lines[number - 1] :: source.lines.drop (number - 1 + 1) := by
    rw [← List.drop_eq_getElem_cons hplace, List.take_append_drop]
  have habout := @LineRule.filter_checkLines_eq_checkLine rules skips namesLine_of_mem_rules 1
    (source.lines.take (number - 1)) source.lines[number - 1]
    (source.lines.drop (number - 1 + 1))
  rw [← hlines, hfront] at habout
  rw [colonReports, ← List.filter_filter, check, LineRule.check, habout,
    filter_isColonReport_checkLine, length_checkLine_colonRules]

/-- A line is asked for a colon at most once. It is asked if no colon ends it and it starts with the
keyword of a block, as a whole word, or with a word that starts like a lone keyword. If no lone
keyword is a part of a longer word there, the keywords of blocks decide alone. -/
theorem colon_asked_for_at_keywords (source line : Text) (number : Nat) (hnumber : 1 ≤ number)
    (hline : source.lines[number - 1]? = some line) :
    ((colonReports source number).length =
      if (headWord line ∈ blockKeywords ∨ ∃ lone ∈ loneKeywords, lone <+: headWord line) ∧
        ¬ colon <:+ line.trim then 1 else 0) ∧
    ((∀ lone ∈ loneKeywords, lone <+: headWord line → lone = headWord line) →
      (colonReports source number).length =
        if headWord line ∈ blockKeywords ∧ ¬ colon <:+ line.trim then 1 else 0) := by
  have hlength := length_colonReports hnumber hline
  have hblock : ∀ lone ∈ loneKeywords, lone ∈ blockKeywords := by
    decide
  refine ⟨hlength, fun hwhole => ?_⟩
  have hsame : (headWord line ∈ blockKeywords ∨ ∃ lone ∈ loneKeywords, lone <+: headWord line) ↔
      headWord line ∈ blockKeywords := by
    refine or_iff_left_of_imp ?_
    rintro ⟨lone, hlone, hstart⟩
    exact hwhole lone hlone hstart ▸ hblock lone hlone
  simp only [hlength, hsame]

/-- Names that merely start with a keyword: a line is asked for a colon if the keyword is one that
stands alone, and is not otherwise. -/
theorem colon_asked_for_at_keywords_of_longer_names :
    let source : Text := Text.ofString "forward = 1\nelsewhere = 2\n  else"
    (headWord (Text.ofString "elsewhere = 2") ∉ blockKeywords ∧
      (colonReports source 2).length = 1) ∧
    (colonReports source 1).length = 0 ∧ (colonReports source 3).length = 1 := by
  intro source
  have hforward : ∀ lone ∈ loneKeywords, lone <+: headWord (Text.ofString "forward = 1") →
      lone = headWord (Text.ofString "forward = 1") := by
    decide +kernel
  have helse : ∀ lone ∈ loneKeywords, lone <+: headWord (Text.ofString "  else") →
      lone = headWord (Text.ofString "  else") := by
    decide +kernel
  refine ⟨⟨by decide +kernel, ?_⟩, ?_, ?_⟩
  · rw [(colon_asked_for_at_keywords source (Text.ofString "elsewhere = 2") 2 (by decide)
      (by decide +kernel)).1]
    decide +kernel
  · rw [(colon_asked_for_at_keywords source (Text.ofString "forward = 1") 1 (by decide)
      (by decide +kernel)).2 hforward]
    decide +kernel
  · rw [(colon_asked_for_at_keywords source (Text.ofString "  else") 3 (by decide)
      (by decide +kernel)).2 helse]
    decide +kernel

end SnippetReview.Python
