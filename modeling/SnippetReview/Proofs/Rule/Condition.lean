import SnippetReview.Proofs.Text.Padding
import SnippetReview.Rule.Condition

/-!
The rule for conditions in parentheses on a padded line. Its keyword is the leftmost word that is
one of the keywords, so it depends on words alone, and what the rule looks for begins with a word
and ends with a closing parenthesis.
-/

set_option autoImplicit false

namespace SnippetReview.Condition

open Cursor Pattern Text

theorem atBoundary_iff_of_isWord {word : Text} (hword : IsWord word) (before : Option CodePoint)
    (rest : Text) : (Cursor.mk (lastOf before word) rest).atBoundary = true ↔
      rest.head?.any CodePoint.isWord = false := by
  have hlast : (lastOf before word).any CodePoint.isWord = true := by
    rw [lastOf, List.getLast?_eq_some_getLast hword.1, Option.some_or, Option.any_some]
    exact hword.2 _ (List.getLast_mem hword.1)
  rw [atBoundary, hlast]
  cases rest.head?.any CodePoint.isWord <;> decide

theorem atBoundary_append_iff_of_isWord {word : Text} (hword : IsWord word)
    (before : Option CodePoint) (rest : Text) :
    (Cursor.mk before (word ++ rest)).atBoundary = true ↔
      before.any CodePoint.isWord = false := by
  obtain ⟨hne, hletters⟩ := hword
  obtain ⟨c, more, rfl⟩ := List.exists_cons_of_ne_nil hne
  rw [atBoundary, List.cons_append, List.head?_cons, Option.any_some,
    hletters c List.mem_cons_self]
  cases before.any CodePoint.isWord <;> decide

theorem takeWhile_isWord_append {word rest : Text} (hword : IsWord word)
    (hrest : rest.head?.any CodePoint.isWord = false) :
    (word ++ rest).takeWhile CodePoint.isWord = word := by
  rw [List.takeWhile_append_of_pos hword.2]
  cases rest with
  | nil => simp
  | cons c rest => simp_all

theorem mem_ends_keyword_iff {keywords : List Text} (hkeywords : ∀ word ∈ keywords, IsWord word)
    {before : Option CodePoint} {text : Text} {later : Cursor} :
    later ∈ (Pattern.oneOf keywords ++ .boundary).ends ⟨before, text⟩ ↔
      later = ⟨lastOf before (text.takeWhile CodePoint.isWord), text.dropWhile CodePoint.isWord⟩ ∧
        text.takeWhile CodePoint.isWord ∈ keywords := by
  obtain ⟨back, rest⟩ := later
  rw [mem_ends_iff, Cursor.mk.injEq]
  constructor
  · rintro ⟨matched, rfl, hback, hmatch⟩
    obtain ⟨word, edge, rfl, hword, hplace⟩ := matches_append.mp hmatch
    obtain ⟨rfl, hedge⟩ := matches_boundary.mp hplace
    rw [matches_oneOf] at hword
    rw [List.append_nil] at hback ⊢
    have hend := (atBoundary_iff_of_isWord (hkeywords word hword) before rest).mp hedge
    have hrun := takeWhile_isWord_append (hkeywords word hword) hend
    have hsplit := @List.takeWhile_append_dropWhile _ CodePoint.isWord (word ++ rest)
    rw [hrun] at hsplit ⊢
    exact ⟨⟨hback, (List.append_cancel_left hsplit).symm⟩, hword⟩
  · rintro ⟨⟨rfl, rfl⟩, hword⟩
    refine ⟨_, List.takeWhile_append_dropWhile.symm, rfl, ?_⟩
    refine matches_append.mpr ⟨_, [], (List.append_nil _).symm, matches_oneOf.mpr hword, ?_⟩
    refine matches_boundary.mpr ⟨rfl, ?_⟩
    exact (atBoundary_iff_of_isWord (hkeywords _ hword) before _).mpr (any_head_dropWhile text)

/-- A keyword stands at a place if no word goes on there and the word that begins is a keyword. -/
theorem keyword_at {keywords : List Text} (hkeywords : ∀ word ∈ keywords, IsWord word)
    (before : Option CodePoint) (text : Text) :
    partAfter .boundary (Pattern.oneOf keywords ++ .boundary) ⟨before, text⟩ =
      if before.any CodePoint.isWord = false ∧ text.takeWhile CodePoint.isWord ∈ keywords then
        some (text.takeWhile CodePoint.isWord) else none := by
  by_cases hword : text.takeWhile CodePoint.isWord ∈ keywords
  · have hhead : text.head?.any CodePoint.isWord = true := by
      cases text with
      | nil => exact absurd rfl (hkeywords _ hword).1
      | cons c text =>
        by_contra hc
        exact (hkeywords _ hword).1 (List.takeWhile_cons_of_neg hc)
    cases hbefore : before.any CodePoint.isWord with
    | true =>
      rw [partAfter, ends, if_neg (by simp [atBoundary, hbefore, hhead]), if_neg (by simp)]
      rfl
    | false =>
      have hplace : Pattern.boundary.ends ⟨before, text⟩ = [⟨before, text⟩] := by
        rw [ends, if_pos (by simp [atBoundary, hbefore, hhead])]
      have hmem : (⟨before, text⟩ : Cursor) ∈ Pattern.boundary.ends ⟨before, text⟩ := by
        simp [hplace]
      rw [partAfter_eq hmem (by simp [hplace]), if_pos ⟨rfl, hword⟩]
      cases hends : ((Pattern.oneOf keywords ++ .boundary).ends ⟨before, text⟩).head? with
      | none =>
        exact absurd (List.head?_eq_none_iff.mp hends)
          (List.ne_nil_of_mem ((mem_ends_keyword_iff hkeywords).mpr ⟨rfl, hword⟩))
      | some later =>
        have hlater := (mem_ends_keyword_iff hkeywords).mp (List.mem_of_mem_head? hends)
        rw [hlater.1, Option.map_some, upTo_eq List.takeWhile_append_dropWhile.symm]
  · rw [if_neg fun h => hword h.2, partAfter, List.findSome?_eq_none_iff]
    intro middle hmiddle
    have hhere : middle = ⟨before, text⟩ := by
      rw [ends] at hmiddle
      split at hmiddle
      · exact List.mem_singleton.mp hmiddle
      · simp at hmiddle
    have hnone : (Pattern.oneOf keywords ++ .boundary).ends ⟨before, text⟩ = [] := by
      rw [List.eq_nil_iff_forall_not_mem]
      exact fun later hlater => hword ((mem_ends_keyword_iff hkeywords).mp hlater).2
    rw [hhere, hnone]
    rfl

private theorem takeWhile_append_of_forall_not {α : Type} {p : α → Bool} {right : List α}
    (hright : ∀ a ∈ right, p a = false) (text : List α) :
    (text ++ right).takeWhile p = text.takeWhile p := by
  induction text with
  | nil =>
    cases right with
    | nil => rfl
    | cons a right => exact List.takeWhile_cons_of_neg (by simp [hright a])
  | cons a text ih => rw [List.cons_append, List.takeWhile_cons, List.takeWhile_cons, ih]

private theorem findFrom_padded {α : Type} {test : Cursor → Option α}
    (found : Bool → Text → Option α)
    (htest : ∀ before text, test ⟨before, text⟩ =
      found (before.any CodePoint.isWord) (text.takeWhile CodePoint.isWord))
    (hnil : ∀ edge, found edge [] = none) {left right : Text}
    (hleft : ∀ c ∈ left, c.isWord = false) (hright : ∀ c ∈ right, c.isWord = false) (text : Text) :
    findFrom test none (left ++ (text ++ right)) = findFrom test none text := by
  have hpadding : ∀ (padding rest : Text) (before : Option CodePoint),
      (∀ c ∈ padding, c.isWord = false) →
        findFrom test before (padding ++ rest) = findFrom test (lastOf before padding) rest := by
    intro padding rest before hpadding
    induction padding generalizing before with
    | nil => rfl
    | cons c padding ih =>
      rw [List.forall_mem_cons] at hpadding
      rw [List.cons_append, findFrom_cons, htest, List.takeWhile_cons_of_neg (by simp [hpadding.1]),
        hnil, Option.none_or, ih _ hpadding.2, lastOf_cons]
  -- Behind the text the search goes on through the padding and finds no more than at its end.
  have hstart : ∀ before, test ⟨before, []⟩ = none := fun before => by
    rw [htest, List.takeWhile_nil, hnil]
  have hbody : ∀ (text : Text) (before before' : Option CodePoint),
      before.any CodePoint.isWord = before'.any CodePoint.isWord →
        findFrom test before (text ++ right) = findFrom test before' text := by
    intro text before before' hbefore
    induction text generalizing before before' with
    | nil =>
      have hend := hpadding right [] before hright
      rw [List.append_nil] at hend
      rw [List.nil_append, hend, findFrom, findFrom, hstart, hstart]
    | cons c text ih =>
      rw [List.cons_append, findFrom_cons, findFrom_cons, ih (some c) (some c) rfl, htest, htest,
        hbefore, ← List.cons_append, takeWhile_append_of_forall_not hright]
  rw [hpadding left _ none hleft]
  refine hbody text _ none ?_
  rw [any_lastOf_eq_false rfl hleft]
  rfl

theorem keyword?_padded {keywords : List Text} (hkeywords : ∀ word ∈ keywords, IsWord word)
    {left right : Text} (hleft : ∀ c ∈ left, c.isWord = false)
    (hright : ∀ c ∈ right, c.isWord = false) (text : Text) :
    keyword? keywords (left ++ (text ++ right)) = keyword? keywords text := by
  refine findFrom_padded (fun goesOn word => if goesOn = false ∧ word ∈ keywords then some word
    else none) (keyword_at hkeywords) ?_ hleft hright text
  intro goesOn
  rw [if_neg]
  rintro ⟨-, h⟩
  exact (hkeywords [] h).1 rfl

theorem isWord_of_mem_bracketedKeywords : ∀ word ∈ bracketedKeywords, IsWord word := by
  decide +kernel

private theorem avoids_bracketedPattern {left right : Text} (hleft : ∀ c ∈ left, c.isWord = false)
    (hright : CodePoint.ofChar ')' ∉ right) : bracketedPattern.Avoids left right where
  finish := by decide
  head := by
    have hkeyword : ∀ {before matched rest},
        (Pattern.boundary ++ Pattern.oneOf bracketedKeywords).Matches before matched rest →
          ∃ c, matched.head? = some c ∧ c ∉ left := by
      intro before matched rest h
      obtain ⟨edge, word, rfl, hedge, hword⟩ := matches_append.mp h
      rw [(matches_boundary.mp hedge).1, List.nil_append]
      obtain ⟨hne, hletters⟩ := isWord_of_mem_bracketedKeywords word (matches_oneOf.mp hword)
      exact ⟨_, List.head?_eq_some_head hne,
        not_mem_of_forall hleft (hletters _ (List.head_mem hne))⟩
    intro before matched rest h
    rw [bracketedPattern] at h
    refine exists_head_append (exists_head_append (exists_head_append (exists_head_append
      (exists_head_append (exists_head_append hkeyword))))) h
  last := by
    intro before matched rest h
    rw [bracketedPattern, matches_append] at h
    obtain ⟨front, closing, rfl, -, hclosing⟩ := h
    rw [matches_char] at hclosing
    exact ⟨CodePoint.ofChar ')', by simp [hclosing], hright⟩

theorem bracketedRule_padded {left right : Text} (hleft : ∀ c ∈ left, c.isWord = false)
    (hright : ∀ c ∈ right, c.isWord = false) (hclosing : CodePoint.ofChar ')' ∉ right)
    (text trimmed trimmed' : Text) :
    bracketedRule.fires (left ++ (text ++ right)) trimmed = bracketedRule.fires text trimmed' ∧
      ∀ number, bracketedRule.report (left ++ (text ++ right)) trimmed number =
        bracketedRule.report text trimmed' number := by
  refine ⟨occursIn_padded (avoids_bracketedPattern hleft hclosing) hleft hright text, ?_⟩
  intro number
  simp only [bracketedRule, keyword,
    keyword?_padded isWord_of_mem_bracketedKeywords hleft hright]

end SnippetReview.Condition
