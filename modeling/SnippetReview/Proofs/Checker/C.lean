import SnippetReview.Checker.C
import SnippetReview.Proofs.Text.Squeeze

/-!
The rule that the entry point of a C program returns something. The head of the entry point is a
sequence of words, so it is found at the same words of a text and of the squeezed text, and the rule
is the same for both.
-/

set_option autoImplicit false

namespace SnippetReview.C

open Cursor Pattern Text

/-- The words of the head after `int`; a blank has to stand before the first of them. -/
def headWords : List (Bool × Text) :=
  [(true, Text.ofString "main"), (false, [CodePoint.ofChar '(']), (false, [CodePoint.ofChar ')']),
    (false, [CodePoint.ofChar '\x7b'])]

private theorem isVisible_of_mem_headWords : ∀ word ∈ headWords, IsVisible word.2 := by
  decide

/-- The text begins with the head of an entry point, and the rest follows its opening brace. -/
def ReadsHead (text rest : Text) : Prop :=
  ∃ more, text = Text.ofString "int" ++ more ∧ ReadsWords headWords more rest

private theorem isVisible_int : IsVisible (Text.ofString "int") := by
  decide

private theorem isVisible_return : IsVisible (Text.ofString "return") := by
  decide

private theorem ReadsHead.unique {text rest other : Text} (h : ReadsHead text rest)
    (hother : ReadsHead text other) : rest = other := by
  obtain ⟨more, rfl, hmore⟩ := h
  obtain ⟨more', hsplit, hmore'⟩ := hother
  rw [← List.append_cancel_left hsplit] at hmore'
  exact hmore.unique isVisible_of_mem_headWords hmore'

private theorem ReadsHead.squeeze {text rest : Text} (h : ReadsHead text rest) :
    ReadsHead (Text.squeeze false text) (Text.squeeze false rest) := by
  obtain ⟨more, rfl, hmore⟩ := h
  exact ⟨_, squeeze_false_append isVisible_int.2 more, hmore.squeeze isVisible_of_mem_headWords⟩

private theorem ReadsHead.exists_of_squeeze {text rest : Text}
    (h : ReadsHead (Text.squeeze false text) rest) :
    ∃ more, ReadsHead text more ∧ rest = Text.squeeze false more := by
  obtain ⟨after, hafter, hwords⟩ := h
  obtain ⟨more, rfl, rfl⟩ := exists_of_squeeze_eq_append isVisible_int.2 hafter
  obtain ⟨last, hlast, hrest⟩ := hwords.exists_of_squeeze isVisible_of_mem_headWords
  exact ⟨last, ⟨more, rfl, hlast⟩, hrest⟩

private theorem matches_mainHead_iff {before : Option CodePoint} {matched rest : Text} :
    mainHead.Matches before matched rest ↔ ReadsHead (matched ++ rest) rest := by
  simp only [mainHead, matches_append, matches_exactly, matches_char, matches_blanks, matches_gap]
  constructor
  · rintro ⟨_, _, rfl, ⟨_, gap4, rfl, ⟨_, _, rfl, ⟨_, gap3, rfl, ⟨_, _, rfl, ⟨_, gap2, rfl,
      ⟨_, _, rfl, ⟨_, gap1, rfl, rfl, hne, hgap1⟩, rfl⟩, hgap2⟩, rfl⟩, hgap3⟩, rfl⟩, hgap4⟩, rfl⟩
    exact ⟨gap1 ++ (Text.ofString "main" ++ (gap2 ++ ([CodePoint.ofChar '('] ++ (gap3 ++
        ([CodePoint.ofChar ')'] ++ (gap4 ++ ([CodePoint.ofChar '\x7b'] ++ rest))))))), by simp,
      gap1, _, rfl, hgap1, fun _ => hne, gap2, _, rfl, hgap2, by simp, gap3, _, rfl, hgap3, by simp,
      gap4, _, rfl, hgap4, by simp, rfl⟩
  · rintro ⟨_, hsplit, gap1, _, rfl, hgap1, hne, gap2, _, rfl, hgap2, -, gap3, _, rfl, hgap3, -,
      gap4, last, rfl, hgap4, -, rfl⟩
    have hmatched : matched ++ last = (((Text.ofString "int" ++ gap1 ++ Text.ofString "main" ++
        gap2 ++ [CodePoint.ofChar '('] ++ gap3) ++ [CodePoint.ofChar ')'] ++ gap4) ++
          [CodePoint.ofChar '\x7b']) ++ last := by
      simpa using hsplit
    obtain rfl := List.append_cancel_right hmatched
    exact ⟨_, _, rfl, ⟨_, gap4, rfl, ⟨_, _, rfl, ⟨_, gap3, rfl, ⟨_, _, rfl, ⟨_, gap2, rfl,
      ⟨_, _, rfl, ⟨_, gap1, rfl, rfl, hne rfl, hgap1⟩, rfl⟩, hgap2⟩, rfl⟩, hgap3⟩, rfl⟩, hgap4⟩,
      rfl⟩

theorem partAfter_of_readsHead {text rest : Text} {accepts : CodePoint → Bool}
    (h : ReadsHead text rest) (before : Option CodePoint) :
    partAfter mainHead (.many accepts) ⟨before, text⟩ = some (rest.takeWhile accepts) := by
  have hsuffix : ∃ matched, text = matched ++ rest := by
    obtain ⟨more, rfl, hmore⟩ := h
    obtain ⟨front, rfl⟩ := hmore.exists_append
    exact ⟨_, (List.append_assoc ..).symm⟩
  obtain ⟨matched, rfl⟩ := hsuffix
  have hmem : ⟨lastOf before matched, rest⟩ ∈ mainHead.ends ⟨before, matched ++ rest⟩ :=
    matches_mainHead_iff.mpr h
  refine partAfter_many hmem fun later hlater => ?_
  obtain ⟨back, rest'⟩ := later
  obtain ⟨matched', hsplit, hback, hmatch⟩ := mem_ends_iff.mp hlater
  dsimp only at hsplit hback hmatch
  have hhead := matches_mainHead_iff.mp hmatch
  rw [← hsplit] at hhead
  obtain rfl := h.unique hhead
  rw [hback, List.append_cancel_right hsplit]

theorem partAfter_of_not_readsHead {text : Text} {part : Pattern}
    (h : ∀ rest, ¬ ReadsHead text rest) (before : Option CodePoint) :
    partAfter mainHead part ⟨before, text⟩ = none := by
  have hends : mainHead.ends ⟨before, text⟩ = [] := by
    rw [List.eq_nil_iff_forall_not_mem]
    intro later hlater
    obtain ⟨matched, rfl, -, hmatch⟩ := mem_ends_iff.mp hlater
    exact h _ (matches_mainHead_iff.mp hmatch)
  rw [partAfter, hends]
  rfl

private theorem not_readsHead_of_blank {c : CodePoint} (hc : c.isBlank = true) (text rest : Text) :
    ¬ ReadsHead (c :: text) rest := by
  rintro ⟨more, hsplit, -⟩
  have hhead := isVisible_int.head more c (by rw [← hsplit]; rfl)
  rw [hc] at hhead
  exact Bool.false_ne_true hhead.symm

private theorem occursIn_return_squeeze (body : Text) :
    Text.occursIn "return" ((Text.squeeze false body).takeWhile (· ≠ CodePoint.ofChar '\x7d')) =
      Text.occursIn "return" (body.takeWhile (· ≠ CodePoint.ofChar '\x7d')) := by
  rw [Bool.eq_iff_iff, occursIn_iff_isInfix, occursIn_iff_isInfix]
  refine isInfix_takeWhile_squeeze isVisible_return (by decide) ?_ false body
  intro c hc
  rw [decide_eq_true_eq]
  rintro rfl
  exact absurd hc (by decide)

def lacksReturn (before : Option CodePoint) (text : Text) : Bool :=
  (findFrom (partAfter mainHead (.many (· ≠ CodePoint.ofChar '\x7d'))) before text).any
    fun body => !Text.occursIn "return" body

theorem fires_mainReturnsRule (source : Text) :
    mainReturnsRule.fires source = lacksReturn none source :=
  rfl

theorem lacksReturn_nil (before : Option CodePoint) : lacksReturn before [] = false := by
  have hhead : ∀ rest, ¬ ReadsHead [] rest := by
    rintro rest ⟨more, hsplit, -⟩
    exact isVisible_int.1 (List.append_eq_nil_iff.mp hsplit.symm).1
  rw [lacksReturn, findFrom, partAfter_of_not_readsHead hhead, Option.any_none]

private theorem lacksReturn_of_readsHead {text rest : Text} (h : ReadsHead text rest)
    (before : Option CodePoint) : lacksReturn before text =
      !Text.occursIn "return" (rest.takeWhile (· ≠ CodePoint.ofChar '\x7d')) := by
  rw [lacksReturn, findFrom_of_start (partAfter_of_readsHead h before), Option.any_some]

theorem lacksReturn_cons {c : CodePoint} {text : Text} (h : ∀ rest, ¬ ReadsHead (c :: text) rest)
    (before : Option CodePoint) : lacksReturn before (c :: text) = lacksReturn (some c) text := by
  rw [lacksReturn, findFrom_cons, partAfter_of_not_readsHead h, Option.none_or, lacksReturn]

private theorem lacksReturn_squeeze (gap : Bool) (source : Text)
    (before before' : Option CodePoint) :
    lacksReturn before (squeeze gap source) = lacksReturn before' source := by
  -- The induction follows the search: blanks begin no head, whether they stay or are left out, so
  -- only a visible code point is a place to compare.
  induction source generalizing gap before before' with
  | nil => rw [squeeze_nil, lacksReturn_nil, lacksReturn_nil]
  | cons c source ih =>
    cases hc : c.isBlank with
    | true =>
      rw [squeeze_cons_of_blank hc, lacksReturn_cons (not_readsHead_of_blank hc source)]
      exact ih true before (some c)
    | false =>
      have hvisible : ∀ before, lacksReturn before (squeeze false (c :: source)) =
          lacksReturn before' (c :: source) := by
        intro before
        by_cases hhead : ∃ rest, ReadsHead (c :: source) rest
        · obtain ⟨rest, hrest⟩ := hhead
          rw [lacksReturn_of_readsHead hrest.squeeze, lacksReturn_of_readsHead hrest,
            occursIn_return_squeeze]
        · rw [not_exists] at hhead
          have hnone : ∀ rest, ¬ ReadsHead (squeeze false (c :: source)) rest := by
            intro rest hrest
            obtain ⟨more, hmore, -⟩ := hrest.exists_of_squeeze
            exact hhead more hmore
          rw [squeeze_false_cons hc] at hnone ⊢
          rw [lacksReturn_cons hnone, lacksReturn_cons hhead]
          exact ih false (some c) (some c)
      cases gap with
      | true =>
        rw [squeeze_true_cons hc, lacksReturn_cons (not_readsHead_of_blank (by decide) _)]
        exact hvisible _
      | false => exact hvisible before

theorem mainReturnsRule_congr {source other : Text}
    (h : source.lines.map Text.trim = other.lines.map Text.trim) :
    mainReturnsRule.fires source = mainReturnsRule.fires other := by
  have hsqueeze : squeeze true source = squeeze true other := by
    rw [squeeze_true_eq_flatMap, squeeze_true_eq_flatMap, h]
  rw [fires_mainReturnsRule, fires_mainReturnsRule,
    ← lacksReturn_squeeze true source none none, hsqueeze, lacksReturn_squeeze]

end SnippetReview.C
