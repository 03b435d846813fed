import SnippetReview.Checker.Python
import SnippetReview.Proofs.Rule.Keyword

/-!
When `print` is taken for a statement. The gap behind the word may be shorter than the blanks that
stand there, and what follows the gap is then itself a blank and no parenthesis. So a call with two
blanks before its parenthesis is taken for a statement, unless another call on the line is written
without a blank.
-/

set_option autoImplicit false

namespace SnippetReview

namespace Python

open Condition Cursor Pattern Text

private theorem matchesAt_printPattern_iff {text front : Text} : printPattern.MatchesAt text front ↔
    ∃ b c rest, StandsAt ["print"] text front "print" (b :: c :: rest) ∧ b.isBlank = true ∧
      c ≠ CodePoint.ofChar '(' := by
  have hedge := fun rest => @atBoundary_append_iff_of_isWord "print" (by decide +kernel)
    (lastOf none front) rest
  constructor
  · rintro ⟨matched, back, rfl, hmatch⟩
    obtain ⟨_, final, rfl, hlead, hfinal⟩ := matches_append.mp hmatch
    obtain ⟨_, gap, rfl, hlead, hgap⟩ := matches_append.mp hlead
    obtain ⟨_, word, rfl, hstart, hprint⟩ := matches_append.mp hlead
    obtain ⟨rfl, hplace⟩ := matches_boundary.mp hstart
    obtain rfl := matches_exactly.mp hprint
    obtain ⟨hne, hblank⟩ := matches_gap.mp hgap
    obtain ⟨c, rfl, hc⟩ := matches_one.mp hfinal
    rw [hedge, lastOf_none] at hplace
    obtain ⟨b, more, rfl⟩ := List.exists_cons_of_ne_nil hne
    obtain ⟨hb, hmore⟩ := List.forall_mem_cons.mp hblank
    -- What follows the first blank is the next one, or what follows the gap.
    have hnext : ∃ d rest, more ++ ([c] ++ back) = d :: rest ∧ d ≠ CodePoint.ofChar '(' := by
      cases more with
      | nil => exact ⟨c, back, rfl, by simpa using hc⟩
      | cons d more =>
        refine ⟨d, more ++ ([c] ++ back), rfl, ?_⟩
        rintro rfl
        exact absurd (hmore _ List.mem_cons_self) (by decide)
    obtain ⟨d, rest, hrest, hd⟩ := hnext
    refine ⟨b, d, rest, ⟨?_, List.mem_singleton_self _, hplace, ?_⟩, hb, hd⟩
    · rw [← hrest]
      simp
    · exact CodePoint.isWord_eq_false_of_isBlank hb
  · rintro ⟨b, c, rest, hstands, hb, hc⟩
    refine ⟨[] ++ Text.ofString "print" ++ [b] ++ [c], rest, by simp [hstands.split], ?_⟩
    refine matches_append.mpr ⟨_, _, rfl, matches_append.mpr ⟨_, _, rfl, matches_append.mpr
      ⟨_, _, rfl, matches_boundary.mpr ⟨rfl, ?_⟩, matches_exactly.mpr rfl⟩, ?_⟩, ?_⟩
    · rw [hedge, lastOf_none]
      exact hstands.left
    · exact matches_gap.mpr ⟨by simp, by simpa using hb⟩
    · exact matches_one.mpr ⟨c, rfl, by simpa using hc⟩

private theorem fires_printRule_iff {line trimmed : Text} : printRule.fires line trimmed = true ↔
    (∃ front b c rest, StandsAt ["print"] trimmed front "print" (b :: c :: rest) ∧
      b.isBlank = true ∧ c ≠ CodePoint.ofChar '(') ∧ ¬ Text.ofString "print(" <:+: trimmed := by
  rw [printRule, Bool.and_eq_true, occursIn_iff_exists_matchesAt, Bool.not_eq_true',
    Bool.eq_false_iff, ne_eq, Text.occursIn_iff_isInfix]
  simp only [matchesAt_printPattern_iff]

/-- Wherever the word stands on a line it is called: a parenthesis follows, blanks aside. -/
def CallsPrint (line : Text) : Prop :=
  ∀ front word rest, StandsAt ["print"] line front word rest →
    ∃ gap arguments, rest = gap ++ CodePoint.ofChar '(' :: arguments ∧ ∀ c ∈ gap, c.isBlank = true

/-- On a line on which every `print` is called, with blanks before the parenthesis or without, the
rule takes a call for a statement exactly if some call has two blanks or more there and nowhere on
the line the parenthesis follows directly. -/
theorem call_taken_for_statement_iff {line : Text} (hcalls : CallsPrint line) :
    printRule.fires line line.trim = true ↔
      (∃ front gap arguments, StandsAt ["print"] line front "print"
        (gap ++ CodePoint.ofChar '(' :: arguments) ∧ (∀ c ∈ gap, c.isBlank = true) ∧
          2 ≤ gap.length) ∧ ¬ Text.ofString "print(" <:+: line := by
  have hwords : ∀ word ∈ [Text.ofString "print"], IsWord word := by
    decide +kernel
  rw [fires_printRule_iff, ← Text.occursIn_iff_isInfix, Text.occursIn_trim (by decide),
    Text.occursIn_iff_isInfix]
  refine and_congr_left fun _ => ?_
  constructor
  · rintro ⟨front, b, c, rest, hstands, hb, hc⟩
    obtain ⟨left, right, hline⟩ := hstands.of_trim
    obtain ⟨gap, arguments, hrest, hgap⟩ := hcalls _ _ _ hline
    rw [hrest] at hline
    refine ⟨left ++ front, gap, arguments, hline, hgap, ?_⟩
    match gap with
    | [] =>
      obtain ⟨rfl, -⟩ := List.cons.inj hrest
      exact absurd hb (by decide)
    | [d] => exact absurd (List.cons.inj (List.cons.inj hrest).2).1 hc
    | d :: e :: more => simp
  · rintro ⟨front, gap, arguments, hstands, hgap, htwo⟩
    -- The parenthesis is not trimmed away, so neither are the blanks before it.
    obtain ⟨front', rest, htrim⟩ := hstands.trim hwords (by decide)
    rcases gap with _ | ⟨b, _ | ⟨c, more⟩⟩
    · simp at htwo
    · simp at htwo
    · refine ⟨front', b, c, more ++ CodePoint.ofChar '(' :: rest, htrim, hgap b (by simp), ?_⟩
      rintro rfl
      exact absurd (hgap (CodePoint.ofChar '(') (by simp)) (by decide)

/-- A call with two blanks before its parenthesis. -/
theorem call_taken_for_statement_iff_of_two_blanks :
    let line : Text := Text.ofString "print  (x)"
    CallsPrint line ∧ printRule.fires line line.trim = true := by
  intro line
  have hplace : ∀ n < 11, (Text.ofString "print").isPrefixOf (line.drop n) = true → n = 0 := by
    decide
  have hcalls : CallsPrint line := by
    rintro front word rest ⟨hsplit, hmem, -, -⟩
    obtain rfl := List.mem_singleton.mp hmem
    have hlength : front.length < 11 := by
      have hline := congrArg List.length hsplit
      have hten : line.length = 10 := by
        decide
      rw [List.length_append] at hline
      omega
    have hfront : front = [] := by
      refine List.eq_nil_of_length_eq_zero (hplace front.length hlength ?_)
      rw [hsplit, List.drop_left, List.isPrefixOf_iff_prefix]
      exact List.prefix_append _ _
    rw [hfront] at hsplit
    refine ⟨Text.ofString "  ", Text.ofString "x)", ?_, by decide⟩
    exact List.append_cancel_left (hsplit.symm.trans (by decide))
  have hstands : StandsAt ["print"] line [] "print"
      (Text.ofString "  " ++ CodePoint.ofChar '(' :: Text.ofString "x)") :=
    ⟨by decide, List.mem_cons_self, rfl, by decide +kernel⟩
  have hopen : ¬ Text.ofString "print(" <:+: line := by
    rw [← Text.occursIn_iff_isInfix]
    decide
  exact ⟨hcalls, (call_taken_for_statement_iff hcalls).mpr
    ⟨⟨[], Text.ofString "  ", Text.ofString "x)", hstands, by decide, by decide⟩, hopen⟩⟩

end Python

end SnippetReview
