import SnippetReview.Proofs.Rule.Keyword

/-!
Where the patterns for assignments in conditions match. Both look for a keyword and, further on, for
an equals sign between blanks. Without parentheses the condition runs to the end of the line, so
that the leftmost keyword can carry each match; with parentheses it runs from an opening
parenthesis, and nothing may be closed before the sign.
-/

set_option autoImplicit false

namespace SnippetReview

/-- An equals sign between blanks splits the text. The part before it ends before one more code
point, which is no comparison sign, and the part behind it begins behind one, which is no equals
sign. -/
def Text.Assigns (text left right : Text) : Prop :=
  ∃ c b b' d, text = left ++ c :: b :: CodePoint.ofChar '=' :: b' :: d :: right ∧
    c.isComparison = false ∧ b.isBlank = true ∧ b'.isBlank = true ∧ d ≠ CodePoint.ofChar '='

namespace Condition

open Cursor Pattern Text

section Matches

variable {before : Option CodePoint} {matched rest : Text}

theorem matches_assignment : Pattern.assignment.Matches before matched rest ↔
    ∃ c b b' d, matched = [c, b, CodePoint.ofChar '=', b', d] ∧ c.isComparison = false ∧
      b.isBlank = true ∧ b'.isBlank = true ∧ d ≠ CodePoint.ofChar '=' := by
  rw [Pattern.assignment]
  constructor
  · intro h
    simp only [matches_append, matches_char, matches_one, notChar] at h
    obtain ⟨_, _, rfl, ⟨_, _, rfl, ⟨_, _, rfl, ⟨_, _, rfl, ⟨c, rfl, hc⟩, ⟨b, rfl, hb⟩⟩, rfl⟩,
      ⟨b', rfl, hb'⟩⟩, ⟨d, rfl, hd⟩⟩ := h
    exact ⟨c, b, b', d, rfl, by simpa using hc, hb, hb', by simpa using hd⟩
  · rintro ⟨c, b, b', d, rfl, hc, hb, hb', hd⟩
    simp only [matches_append, matches_char, matches_one, notChar]
    exact ⟨[c, b, CodePoint.ofChar '=', b'], [d], rfl, ⟨[c, b, CodePoint.ofChar '='], [b'], rfl,
      ⟨[c, b], [CodePoint.ofChar '='], rfl, ⟨[c], [b], rfl, ⟨c, rfl, by simpa using hc⟩, b, rfl,
      hb⟩, rfl⟩, b', rfl, hb'⟩, d, rfl, by simpa using hd⟩

variable {keywords : List Text} (hkeywords : ∀ word ∈ keywords, IsWord word)

include hkeywords

theorem matches_boundary_append_oneOf :
    (.boundary ++ Pattern.oneOf keywords).Matches before matched rest ↔
      matched ∈ keywords ∧ before.any CodePoint.isWord = false := by
  have hedge : ∀ word ∈ keywords, (Cursor.mk before (word ++ rest)).atBoundary = true ↔
      before.any CodePoint.isWord = false :=
    fun word hword => atBoundary_append_iff_of_isWord (hkeywords word hword) before rest
  rw [matches_append]
  constructor
  · rintro ⟨edge, word, rfl, hplace, hword⟩
    obtain ⟨rfl, hboundary⟩ := matches_boundary.mp hplace
    rw [matches_oneOf] at hword
    exact ⟨hword, (hedge word hword).mp hboundary⟩
  · rintro ⟨hword, hbefore⟩
    refine ⟨[], matched, rfl, matches_boundary.mpr ⟨rfl, ?_⟩, matches_oneOf.mpr hword⟩
    exact (hedge matched hword).mpr hbefore

private theorem matches_keyword :
    (.boundary ++ Pattern.oneOf keywords ++ .boundary).Matches before matched rest ↔
      matched ∈ keywords ∧ before.any CodePoint.isWord = false ∧
        rest.head?.any CodePoint.isWord = false := by
  rw [matches_append]
  constructor
  · rintro ⟨word, edge, rfl, hlead, hplace⟩
    obtain ⟨rfl, hboundary⟩ := matches_boundary.mp hplace
    obtain ⟨hword, hbefore⟩ := (matches_boundary_append_oneOf hkeywords).mp hlead
    rw [atBoundary_iff_of_isWord (hkeywords word hword)] at hboundary
    rw [List.append_nil]
    exact ⟨hword, hbefore, hboundary⟩
  · rintro ⟨hword, hbefore, hrest⟩
    refine ⟨matched, [], (List.append_nil matched).symm,
      (matches_boundary_append_oneOf hkeywords).mpr ⟨hword, hbefore⟩,
      matches_boundary.mpr ⟨rfl, ?_⟩⟩
    exact (atBoundary_iff_of_isWord (hkeywords matched hword) before rest).mpr hrest

end Matches

section Open

variable {text front : Text}

theorem isWord_of_mem_openKeywords : ∀ word ∈ openKeywords, IsWord word := by
  decide +kernel

/-- The pattern without parentheses matches where a keyword stands that an assignment follows on the
same line. -/
theorem matchesAt_openPattern_iff : openPattern.MatchesAt text front ↔
    ∃ word rest middle right, StandsAt openKeywords text front word rest ∧
      rest.Assigns middle right ∧ ∀ c ∈ middle, c.inLine = true := by
  constructor
  · rintro ⟨matched, back, htext, hmatch⟩
    obtain ⟨lead, sign, rfl, hlead, hsign⟩ := matches_append.mp hmatch
    obtain ⟨word, middle, rfl, hkeyword, hmiddle⟩ := matches_append.mp hlead
    obtain ⟨hword, hleft, hright⟩ := (matches_keyword isWord_of_mem_openKeywords).mp hkeyword
    obtain ⟨c, b, b', d, rfl, hclasses⟩ := matches_assignment.mp hsign
    rw [lastOf_none] at hleft
    rw [List.append_assoc, List.append_assoc] at htext
    exact ⟨word, _, middle, back, ⟨htext, hword, hleft, hright⟩, ⟨c, b, b', d, rfl, hclasses⟩,
      matches_many.mp hmiddle⟩
  · rintro ⟨word, rest, middle, right, hstands, ⟨c, b, b', d, rfl, hclasses⟩, hmiddle⟩
    refine ⟨word ++ middle ++ [c, b, CodePoint.ofChar '=', b', d], right, ?_, ?_⟩
    · rw [hstands.split, List.append_assoc, List.append_assoc]
      rfl
    · refine matches_append.mpr ⟨_, _, rfl, matches_append.mpr ⟨word, middle, rfl, ?_, ?_⟩, ?_⟩
      · rw [matches_keyword isWord_of_mem_openKeywords, lastOf_none]
        exact ⟨hstands.mem, hstands.left, hstands.right⟩
      · exact matches_many.mpr hmiddle
      · exact matches_assignment.mpr ⟨c, b, b', d, rfl, hclasses⟩

private theorem IsLeftmost.matchesAt_openPattern {word rest earlier : Text}
    (hleftmost : IsLeftmost openKeywords text front word rest)
    (hline : CodePoint.ofChar '\n' ∉ text) (hmatch : openPattern.MatchesAt text earlier) :
    openPattern.MatchesAt text front := by
  obtain ⟨other, later, middle, right, hother, hassigns, hmiddle⟩ :=
    matchesAt_openPattern_iff.mp hmatch
  rw [matchesAt_openPattern_iff]
  rcases (hleftmost.first hother).eq_or_lt with hlength | hlength
  · obtain ⟨rfl, rfl, rfl⟩ :=
      hother.unique isWord_of_mem_openKeywords hleftmost.toStandsAt hlength
    exact ⟨word, rest, middle, right, hleftmost.toStandsAt, hassigns, hmiddle⟩
  · obtain ⟨between, rfl, -⟩ :=
      hother.exists_between isWord_of_mem_openKeywords hleftmost.toStandsAt hlength
    obtain ⟨c, b, b', d, rfl, hclasses⟩ := hassigns
    refine ⟨word, _, between ++ (other ++ middle), right, hleftmost.toStandsAt,
      ⟨c, b, b', d, by simp, hclasses⟩, ?_⟩
    have hsplit := hleftmost.split
    intro e he
    refine CodePoint.inLine_of_mem hline ?_
    rw [hsplit]
    simp only [List.mem_append] at he ⊢
    tauto

/-- On a single line the search for the pattern without parentheses ends at the leftmost keyword. -/
theorem IsLeftmost.matchesFirstAt_openPattern {word rest : Text}
    (hleftmost : IsLeftmost openKeywords text front word rest)
    (hline : CodePoint.ofChar '\n' ∉ text) (hoccurs : openPattern.occursIn text = true) :
    openPattern.MatchesFirstAt text front := by
  obtain ⟨earlier, hmatch⟩ := occursIn_iff_exists_matchesAt.mp hoccurs
  refine ⟨hleftmost.matchesAt_openPattern hline hmatch, fun other hother => ?_⟩
  obtain ⟨word', later, middle, right, hstands, -⟩ := matchesAt_openPattern_iff.mp hother
  exact hleftmost.first hstands

end Open

end Condition

end SnippetReview
