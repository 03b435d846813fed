import SnippetReview.Proofs.Checker.Header
import SnippetReview.Proofs.Text.Basic

/-!
What the rules about conditions look for, by positions in the line. Their patterns hold runs that
overlap what comes after them, so that a match can be placed in many ways; what is left of this is a
keyword, a sign, and which of the two comes first. So a report stays when text is added around the
line, and a line in which each equals sign is part of a comparison gets none.
-/

set_option autoImplicit false

namespace SnippetReview

namespace Text

/-- A word begins or ends at a position: a word character stands on just one side of it. -/
def edgeAt (text : Text) (i : Nat) : Bool :=
  (0 < i && text[i - 1]?.any CodePoint.isWord) != text[i]?.any CodePoint.isWord

/-- At a position stands an equals sign between blanks. Two positions before it stands something
that is no comparison sign, and two positions behind it something that is no equals sign. -/
structure SignAt (text : Text) (k : Nat) : Prop where
  two_le : 2 ≤ k
  sign : text[k]? = some (CodePoint.ofChar '=')
  blankBefore : text[k - 1]?.any CodePoint.isBlank = true
  blankBehind : text[k + 1]?.any CodePoint.isBlank = true
  before : text[k - 2]?.any (!·.isComparison) = true
  behind : text[k + 2]?.any (· ≠ CodePoint.ofChar '=') = true

/-- What stands at a position touches one of the signs that comparisons are made of. -/
def TouchesComparison (text : Text) (k : Nat) : Prop :=
  0 < k ∧ text[k - 1]?.any CodePoint.isComparison = true ∨
    text[k + 1]?.any CodePoint.isComparison = true

instance (text : Text) (k : Nat) : Decidable (text.TouchesComparison k) :=
  inferInstanceAs (Decidable (_ ∨ _))

variable {text left right front back : Text}

private theorem mem_drop_iff {c : CodePoint} {m : Nat} :
    c ∈ text.drop m ↔ ∃ q, m ≤ q ∧ text[q]? = some c := by
  simp only [List.mem_iff_getElem?, List.getElem?_drop]
  constructor
  · rintro ⟨i, hi⟩
    exact ⟨m + i, Nat.le_add_right .., hi⟩
  · rintro ⟨q, hq, hc⟩
    exact ⟨q - m, by rwa [Nat.add_sub_cancel' hq]⟩

private theorem mem_extract_iff {c : CodePoint} {m n : Nat} :
    c ∈ text.extract m n ↔ ∃ q, m ≤ q ∧ q < n ∧ text[q]? = some c := by
  simp only [List.extract_eq_take_drop, List.mem_iff_getElem?, List.getElem?_take,
    List.getElem?_drop]
  constructor
  · rintro ⟨i, hi⟩
    split at hi
    · exact ⟨m + i, Nat.le_add_right .., by omega, hi⟩
    · cases hi
  · rintro ⟨q, hm, hn, hc⟩
    refine ⟨q - m, ?_⟩
    rw [if_pos (by omega), Nat.add_sub_cancel' hm]
    exact hc

private theorem edgeAt_append (front back : Text) :
    (front ++ back).edgeAt front.length = (Cursor.mk front.getLast? back).atBoundary := by
  have hbehind : (front ++ back)[front.length]? = back.head? := by
    rw [← Nat.add_zero front.length, getElem?_length_add, List.head?_eq_getElem?]
  have hbefore : (decide (0 < front.length) && (front ++ back)[front.length - 1]?.any
      CodePoint.isWord) = front.getLast?.any CodePoint.isWord := by
    cases front with
    | nil => rfl
    | cons c front =>
      rw [List.getElem?_append_left (by simp), ← List.getLast?_eq_getElem?]
      simp
  rw [edgeAt, hbefore, hbehind, Cursor.atBoundary]

private theorem edgeAt_eq {i : Nat} (hi : i ≤ text.length) :
    text.edgeAt i = (Cursor.mk (text.take i).getLast? (text.drop i)).atBoundary := by
  have hsplit := edgeAt_append (text.take i) (text.drop i)
  rwa [List.take_append_drop, List.length_take_of_le hi] at hsplit

private theorem Assigns.append (h : text.Assigns left right) (front back : Text) :
    (front ++ (text ++ back)).Assigns (front ++ left) (right ++ back) := by
  obtain ⟨c, b, b', d, rfl, hclasses⟩ := h
  exact ⟨c, b, b', d, by simp, hclasses⟩

private theorem Assigns.exists_of_append (h : (front ++ text).Assigns left right)
    (hlength : front.length ≤ left.length) :
    ∃ middle, left = front ++ middle ∧ text.Assigns middle right := by
  obtain ⟨c, b, b', d, hsplit, hclasses⟩ := h
  have hfront : front <+: left := by
    have hleft : left <+: front ++ text := by
      rw [hsplit]
      exact List.prefix_append ..
    exact List.prefix_of_prefix_length_le (List.prefix_append front text) hleft hlength
  obtain ⟨middle, rfl⟩ := hfront
  rw [List.append_assoc] at hsplit
  exact ⟨middle, rfl, c, b, b', d, List.append_cancel_left hsplit, hclasses⟩

private theorem Assigns.take_eq (h : text.Assigns left right) : text.take left.length = left := by
  obtain ⟨c, b, b', d, rfl, -⟩ := h
  exact List.take_left

private theorem Assigns.drop_eq (h : text.Assigns left right) :
    text.drop (left.length + 5) = right := by
  obtain ⟨c, b, b', d, rfl, -⟩ := h
  rw [← List.drop_drop, List.drop_left]
  rfl

private theorem signAt_iff {k : Nat} : text.SignAt k ↔
    ∃ left right, text.Assigns left right ∧ k = left.length + 2 := by
  constructor
  · rintro ⟨htwo, hsign, hb, hb', hc, hd⟩
    obtain ⟨i, rfl⟩ := Nat.exists_eq_add_of_le' htwo
    obtain ⟨b, hb, hblank⟩ := (Option.any_eq_true _ _).mp hb
    obtain ⟨b', hb', hblank'⟩ := (Option.any_eq_true _ _).mp hb'
    obtain ⟨c, hc, hno⟩ := (Option.any_eq_true _ _).mp hc
    obtain ⟨d, hd, hne⟩ := (Option.any_eq_true _ _).mp hd
    change text[i + 1]? = some b at hb
    change text[i]? = some c at hc
    obtain ⟨hi, -⟩ := List.getElem?_eq_some_iff.mp hc
    refine ⟨text.take i, text.drop (i + 5),
      ⟨c, b, b', d, ?_, by simpa using hno, hblank, hblank', by simpa using hne⟩, ?_⟩
    · rw [← drop_eq_cons hd, ← drop_eq_cons hb', ← drop_eq_cons hsign, ← drop_eq_cons hb,
        ← drop_eq_cons hc, List.take_append_drop]
    · rw [List.length_take_of_le (by omega)]
  · rintro ⟨left, right, ⟨c, b, b', d, rfl, hno, hblank, hblank', hne⟩, rfl⟩
    refine ⟨Nat.le_add_left .., ?_, ?_, ?_, ?_, ?_⟩
    · rw [getElem?_length_add]
      rfl
    · rw [Nat.add_sub_assoc (by decide), getElem?_length_add]
      exact hblank
    · rw [Nat.add_assoc, getElem?_length_add]
      exact hblank'
    · rw [Nat.add_sub_assoc (by decide), getElem?_length_add]
      simpa using hno
    · rw [Nat.add_assoc, getElem?_length_add]
      simpa using hne

/-- A sign between blanks touches no comparison sign. -/
private theorem SignAt.not_touchesComparison {k : Nat} (h : text.SignAt k) :
    ¬ text.TouchesComparison k := by
  have hnone : ∀ {c : CodePoint}, c.isBlank = true → c.isComparison = false := by
    intro c hc
    exact CodePoint.of_isBlank (p := fun c => c.isComparison = false) (by decide) hc
  obtain ⟨b, hb, hblank⟩ := (Option.any_eq_true _ _).mp h.blankBefore
  obtain ⟨b', hb', hblank'⟩ := (Option.any_eq_true _ _).mp h.blankBehind
  rintro (⟨-, hcomparison⟩ | hcomparison)
  · rw [hb, Option.any_some, hnone hblank] at hcomparison
    cases hcomparison
  · rw [hb', Option.any_some, hnone hblank'] at hcomparison
    cases hcomparison

end Text

namespace Condition

open Cursor Pattern Text

structure KeywordAt (keywords : List Text) (text : Text) (i j : Nat) : Prop where
  le : i ≤ j
  bound : j ≤ text.length
  mem : text.extract i j ∈ keywords
  edge : text.edgeAt i = true

/-- From position `j` on there are blanks, and an opening parenthesis at position `p`. -/
structure ParenthesisAt (text : Text) (j p : Nat) : Prop where
  le : j ≤ p
  blanks : ∀ q, j ≤ q → q < p → text[q]?.any CodePoint.isBlank = true
  opening : text[p]? = some (CodePoint.ofChar '(')

section Keyword

variable {keywords : List Text} (hkeywords : ∀ word ∈ keywords, IsWord word)
  {text front word rest : Text} {i j : Nat}

private theorem extract_append_drop (hij : i ≤ j) :
    text.drop i = text.extract i j ++ text.drop j := by
  have hrest : text.drop j = (text.drop i).drop (j - i) := by
    rw [List.drop_drop, Nat.add_sub_cancel' hij]
  rw [hrest, List.extract_eq_take_drop, List.take_append_drop]

include hkeywords

private theorem keywordAt_of_split (hsplit : text = front ++ (word ++ rest))
    (hword : word ∈ keywords)
    (hleft : front.getLast?.any CodePoint.isWord = false) :
    KeywordAt keywords text front.length (front.length + word.length) := by
  subst hsplit
  refine ⟨Nat.le_add_right .., by simp, ?_, ?_⟩
  · rw [List.extract_eq_take_drop, List.drop_left, Nat.add_sub_cancel_left, List.take_left]
    exact hword
  · rw [edgeAt_append, atBoundary_append_iff_of_isWord (hkeywords word hword)]
    exact hleft

private theorem KeywordAt.left (h : KeywordAt keywords text i j) :
    (text.take i).getLast?.any CodePoint.isWord = false := by
  have hedge := h.edge
  rw [edgeAt_eq (h.le.trans h.bound), extract_append_drop h.le,
    atBoundary_append_iff_of_isWord (hkeywords _ h.mem)] at hedge
  exact hedge

private theorem KeywordAt.standsAt (h : KeywordAt keywords text i j)
    (hedge : text.edgeAt j = true) :
    StandsAt keywords text (text.take i) (text.extract i j) (text.drop j) := by
  refine ⟨?_, h.mem, h.left hkeywords, ?_⟩
  · rw [← extract_append_drop h.le, List.take_append_drop]
  · have htake : text.take j = text.take i ++ text.extract i j := by
      rw [List.extract_eq_take_drop, ← List.take_add, Nat.add_sub_cancel' h.le]
    rw [edgeAt_eq h.bound, ← lastOf_none, htake, lastOf_append,
      atBoundary_iff_of_isWord (hkeywords _ h.mem)] at hedge
    exact hedge

private theorem StandsAt.edgeAt (h : StandsAt keywords text front word rest) :
    text.edgeAt (front.length + word.length) = true := by
  rw [h.split, ← List.append_assoc, ← List.length_append, edgeAt_append, ← lastOf_none,
    lastOf_append, atBoundary_iff_of_isWord (hkeywords word h.mem)]
  exact h.right

end Keyword

section Open

variable {line : Text}

private theorem fires_openRule_iff_signAt (hline : CodePoint.ofChar '\n' ∉ line) :
    openRule.fires line line.trim = true ↔ ∃ i j k, KeywordAt openKeywords line.trim i j ∧
      line.trim.edgeAt j = true ∧ line.trim.SignAt k ∧ j + 2 ≤ k := by
  change openPattern.occursIn line.trim = true ↔ _
  simp only [occursIn_iff_exists_matchesAt, matchesAt_openPattern_iff]
  have hkeywords := isWord_of_mem_openKeywords
  constructor
  · rintro ⟨front, word, rest, middle, right, hstands, hassigns, -⟩
    refine ⟨front.length, front.length + word.length, (front ++ word ++ middle).length + 2,
      keywordAt_of_split hkeywords hstands.split hstands.mem hstands.left,
      hstands.edgeAt hkeywords, ?_, by simp⟩
    have hwhole := hassigns.append (front ++ word) []
    rw [List.append_nil, List.append_assoc front word rest, ← hstands.split] at hwhole
    exact signAt_iff.mpr ⟨_, _, hwhole, rfl⟩
  · rintro ⟨i, j, k, hkeyword, hedge, hsign, hk⟩
    obtain ⟨left, right, hassigns, rfl⟩ := signAt_iff.mp hsign
    have hlength : (line.trim.take j).length ≤ left.length := by
      rw [List.length_take]
      omega
    rw [← List.take_append_drop j line.trim] at hassigns
    obtain ⟨middle, -, hrest⟩ := hassigns.exists_of_append hlength
    refine ⟨_, _, _, middle, right, hkeyword.standsAt hkeywords hedge, hrest, fun c hc => ?_⟩
    rw [← hrest.take_eq] at hc
    have hmem := mem_of_mem_trim (List.mem_of_mem_drop (List.mem_of_mem_take hc))
    exact CodePoint.inLine_of_mem hline hmem

end Open

section Bracketed

variable {text front keyword rest left right : Text} {p : Nat}

private theorem opens_iff_parenthesisAt (hp : p < text.length) :
    (∃ front keyword, Opens text front keyword (text.drop (p + 1))) ↔
      ∃ i j, KeywordAt bracketedKeywords text i j ∧ ParenthesisAt text j p := by
  constructor
  · rintro ⟨front, keyword, ⟨gap, hsplit, hgap⟩, hmem, hleft⟩
    have hplace : p = front.length + keyword.length + gap.length := by
      have hlength := congrArg List.length hsplit
      simp only [List.length_append, List.length_cons, List.length_drop] at hlength
      omega
    have hat : ∀ q, text[front.length + keyword.length + q]? =
        (gap ++ CodePoint.ofChar '(' :: text.drop (p + 1))[q]? := by
      intro q
      conv_lhs => rw [hsplit, ← List.append_assoc, ← List.length_append]
      exact getElem?_length_add _ _ q
    refine ⟨_, _, keywordAt_of_split isWord_of_mem_bracketedKeywords hsplit hmem hleft,
      ⟨by omega, fun q hj hq => ?_, ?_⟩⟩
    · obtain ⟨i, rfl⟩ := Nat.exists_eq_add_of_le hj
      have hi : i < gap.length := by
        omega
      rw [hat, List.getElem?_append_left hi, List.getElem?_eq_getElem hi, Option.any_some]
      exact hgap _ (List.getElem_mem hi)
    · conv_lhs => rw [hplace]
      rw [hat, List.getElem?_append_right le_rfl, Nat.sub_self]
      rfl
  · rintro ⟨i, j, hkeyword, hjp, hblanks, hopening⟩
    refine ⟨text.take i, text.extract i j, ⟨text.extract j p, ?_, ?_⟩, hkeyword.mem,
      hkeyword.left isWord_of_mem_bracketedKeywords⟩
    · rw [← drop_eq_cons hopening, ← extract_append_drop hjp, ← extract_append_drop hkeyword.le,
        List.take_append_drop]
    · intro c hc
      obtain ⟨q, hj, hq, hat⟩ := mem_extract_iff.mp hc
      simpa [hat] using hblanks q hj hq

private theorem hasOpenAssignment_drop_iff (hp : p < text.length) :
    HasOpenAssignment (text.drop (p + 1)) ↔ ∃ k, text.SignAt k ∧ p + 2 < k ∧
      CodePoint.ofChar ')' ∉ text.extract (p + 1) (k - 2) ∧
        CodePoint.ofChar ')' ∈ text.drop (k + 3) := by
  have hlength : (text.take (p + 1)).length = p + 1 := List.length_take_of_le hp
  have hwhole : text.take (p + 1) ++ text.drop (p + 1) = text := List.take_append_drop ..
  constructor
  · rintro ⟨left, right, hassigns, hleft, hright⟩
    have hline := hassigns.append (text.take (p + 1)) []
    rw [List.append_nil, hwhole, List.append_nil] at hline
    have hk : (text.take (p + 1) ++ left).length = p + 1 + left.length := by
      rw [List.length_append, hlength]
    refine ⟨_, signAt_iff.mpr ⟨_, _, hline, rfl⟩, by omega, ?_, ?_⟩
    · rw [List.extract_eq_take_drop, hk, Nat.add_sub_cancel, Nat.add_sub_cancel_left,
        hassigns.take_eq]
      exact hleft
    · rw [Nat.add_assoc, hline.drop_eq]
      exact hright
  · rintro ⟨k, hsign, hk, hleft, hright⟩
    obtain ⟨left, right, hassigns, rfl⟩ := signAt_iff.mp hsign
    have hbehind := hassigns.drop_eq
    rw [← hwhole] at hassigns
    obtain ⟨middle, rfl, hrest⟩ := hassigns.exists_of_append (by omega)
    refine ⟨middle, right, hrest, ?_, ?_⟩
    · rwa [List.extract_eq_take_drop, Nat.add_sub_cancel, List.length_append, hlength,
        Nat.add_sub_cancel_left, hrest.take_eq] at hleft
    · rwa [Nat.add_assoc, hbehind] at hright

private theorem Opens.exists_drop (h : Opens text front keyword rest) :
    ∃ p < text.length, rest = text.drop (p + 1) := by
  obtain ⟨gap, hsplit, -⟩ := h.split
  have hlength := congrArg List.length hsplit
  simp only [List.length_append, List.length_cons] at hlength
  refine ⟨text.length - rest.length - 1, by omega, ?_⟩
  have hsuffix : rest <:+ text := by
    rw [hsplit]
    exact ((List.suffix_cons _ rest).trans (List.suffix_append ..)).trans
      ((List.suffix_append ..).trans (List.suffix_append ..))
  rw [Nat.sub_add_cancel (by omega)]
  exact List.suffix_iff_eq_drop.mp hsuffix

private theorem fires_bracketedRule_iff_signAt (trimmed : Text) :
    bracketedRule.fires text trimmed = true ↔
    ∃ i j p k, KeywordAt bracketedKeywords text i j ∧ ParenthesisAt text j p ∧ text.SignAt k ∧
      p + 2 < k ∧ (∀ q, p < q → q + 2 < k → text[q]? ≠ some (CodePoint.ofChar ')')) ∧
        ∃ q, k + 2 < q ∧ text[q]? = some (CodePoint.ofChar ')') := by
  have hopen : ∀ p k, CodePoint.ofChar ')' ∉ text.extract (p + 1) (k - 2) ↔
      ∀ q, p < q → q + 2 < k → text[q]? ≠ some (CodePoint.ofChar ')') := by
    intro p k
    rw [mem_extract_iff]
    constructor
    · intro hnone q hp hk hat
      exact hnone ⟨q, hp, by omega, hat⟩
    · rintro hnone ⟨q, hp, hk, hat⟩
      exact hnone q hp (by omega) hat
  rw [fires_bracketedRule_iff]
  constructor
  · rintro ⟨front, keyword, rest, hopens, hassignment⟩
    obtain ⟨p, hp, rfl⟩ := hopens.exists_drop
    obtain ⟨i, j, hkeyword, hparenthesis⟩ := (opens_iff_parenthesisAt hp).mp ⟨_, _, hopens⟩
    obtain ⟨k, hsign, hk, hnone, hclosing⟩ := (hasOpenAssignment_drop_iff hp).mp hassignment
    exact ⟨i, j, p, k, hkeyword, hparenthesis, hsign, hk, (hopen p k).mp hnone,
      mem_drop_iff.mp hclosing⟩
  · rintro ⟨i, j, p, k, hkeyword, hparenthesis, hsign, hk, hnone, hclosing⟩
    have hp : p < text.length := (List.getElem?_eq_some_iff.mp hparenthesis.opening).1
    obtain ⟨front, keyword, hopens⟩ :=
      (opens_iff_parenthesisAt hp).mpr ⟨i, j, hkeyword, hparenthesis⟩
    exact ⟨front, keyword, _, hopens, (hasOpenAssignment_drop_iff hp).mpr
      ⟨k, hsign, hk, (hopen p k).mpr hnone, mem_drop_iff.mpr hclosing⟩⟩

end Bracketed

section Padded

variable {line front keyword rest left right : Text}

/-- What the rule without parentheses reports, it reports with any text behind it, and with any text
in front that ends with no word character. -/
private theorem fires_openRule_append (hleft : left.getLast?.any CodePoint.isWord = false)
    (hfires : openRule.fires line line.trim = true) :
    openRule.fires (left ++ (line ++ right)) (left ++ (line ++ right)).trim = true := by
  obtain ⟨front, hmatch⟩ := occursIn_iff_exists_matchesAt.mp hfires
  obtain ⟨word, rest, middle, tail, hstands, hassigns, hmiddle⟩ :=
    matchesAt_openPattern_iff.mp hmatch
  have hvisible : line.trim ≠ [] := by
    rw [hstands.split]
    simp [(isWord_of_mem_openKeywords word hstands.mem).1]
  obtain ⟨before, behind, htrim, hbefore⟩ := exists_trim_append hvisible left right
  refine occursIn_iff_exists_matchesAt.mpr ⟨before ++ front, matchesAt_openPattern_iff.mpr
    ⟨word, rest ++ behind, middle, tail ++ behind, ⟨?_, hstands.mem, ?_, ?_⟩,
      hassigns.append [] behind, hmiddle⟩⟩
  · conv_lhs => rw [htrim, hstands.split]
    simp only [List.append_assoc]
  · exact any_getLast_append (hbefore hleft) hstands.left
  · obtain ⟨c, b, b', d, rfl, -⟩ := hassigns
    have hright := hstands.right
    cases middle <;> exact hright

private theorem fires_bracketedRule_append (hleft : left.getLast?.any CodePoint.isWord = false)
    (trimmed trimmed' : Text) (hfires : bracketedRule.fires line trimmed = true) :
    bracketedRule.fires (left ++ (line ++ right)) trimmed' = true := by
  obtain ⟨front, keyword, rest, ⟨⟨gap, hsplit, hgap⟩, hmem, hedge⟩, before, behind, hassigns,
    hnone, hclosing⟩ := (fires_bracketedRule_iff trimmed).mp hfires
  refine (fires_bracketedRule_iff trimmed').mpr ⟨left ++ front, keyword, rest ++ right,
    ⟨⟨gap, ?_, hgap⟩, hmem, any_getLast_append hleft hedge⟩, before, behind ++ right,
    hassigns.append [] right, hnone, List.mem_append_left _ hclosing⟩
  rw [hsplit]
  simp only [List.append_assoc, List.cons_append]

private theorem exists_signAt_of_openRule (hfires : openRule.fires line line.trim = true) :
    ∃ k, line.SignAt k := by
  obtain ⟨front, hmatch⟩ := occursIn_iff_exists_matchesAt.mp hfires
  obtain ⟨word, rest, middle, tail, hstands, hassigns, -⟩ := matchesAt_openPattern_iff.mp hmatch
  obtain ⟨before, behind, hline, -⟩ := exists_trim line
  have hsign := (hassigns.append (front ++ word) []).append before behind
  rw [List.append_nil, List.append_assoc front, ← hstands.split, ← hline] at hsign
  exact ⟨_, signAt_iff.mpr ⟨_, _, hsign, rfl⟩⟩

end Padded

/-- By positions, a rule about conditions fires if there is a keyword, in parentheses with its
opening one, and behind it an equals sign between blanks that is not made part of a comparison by
what stands next to the blanks; in parentheses none is closed before the sign, but one behind it. So
the report stays when any text is put behind the line, or in front of it text that ends with no word
character; and if each equals sign of the line touches a comparison sign, then there is none. -/
theorem conditions_reported_by_position :
    (∀ text : Text, CodePoint.ofChar '\n' ∉ text →
      (openRule.fires text text.trim = true ↔ ∃ i j k, KeywordAt openKeywords text.trim i j ∧
        text.trim.edgeAt j = true ∧ text.trim.SignAt k ∧ j + 2 ≤ k)) ∧
    (∀ text : Text, bracketedRule.fires text text.trim = true ↔
      ∃ i j p k, KeywordAt bracketedKeywords text i j ∧ ParenthesisAt text j p ∧ text.SignAt k ∧
        p + 2 < k ∧ (∀ q, p < q → q + 2 < k → text[q]? ≠ some (CodePoint.ofChar ')')) ∧
          ∃ q, k + 2 < q ∧ text[q]? = some (CodePoint.ofChar ')')) ∧
    (∀ rule ∈ [openRule, bracketedRule], ∀ text left right : Text,
      left.getLast?.any CodePoint.isWord = false → rule.fires text text.trim = true →
        rule.fires (left ++ (text ++ right)) (left ++ (text ++ right)).trim = true) ∧
    ∀ rule ∈ [openRule, bracketedRule], ∀ text : Text,
      (∀ k, text[k]? = some (CodePoint.ofChar '=') → text.TouchesComparison k) →
        rule.fires text text.trim = false := by
  simp only [List.forall_mem_cons]
  refine ⟨fun text => fires_openRule_iff_signAt, fun text => fires_bracketedRule_iff_signAt _,
    ⟨?_, ?_, by simp⟩, ?_, ?_, by simp⟩
  · intro text left right hleft hfires
    exact fires_openRule_append hleft hfires
  · intro text left right hleft hfires
    exact fires_bracketedRule_append hleft _ _ hfires
  · intro text htouches
    rw [Bool.eq_false_iff]
    intro hfires
    obtain ⟨k, hsign⟩ := exists_signAt_of_openRule hfires
    exact hsign.not_touchesComparison (htouches k hsign.sign)
  · intro text htouches
    rw [Bool.eq_false_iff]
    intro hfires
    obtain ⟨-, -, -, k, -, -, hsign, -⟩ := (fires_bracketedRule_iff_signAt _).mp hfires
    exact hsign.not_touchesComparison (htouches k hsign.sign)

/-- A loop without parentheses, one in parentheses, and a comparison. -/
theorem conditions_reported_by_position_of_three_lines :
    let loop : Text := Text.ofString "\twhile x = 5"
    let header : Text := Text.ofString "for ( ; n = next(); )"
    let comparison : Text := Text.ofString "if (x == 5)"
    let brace : Text := Text.ofString "\x7d "
    openRule.fires loop loop.trim = true ∧ bracketedRule.fires header header.trim = true ∧
      (∀ behind : Text, openRule.fires (brace ++ (loop ++ behind))
        (brace ++ (loop ++ behind)).trim = true) ∧
      openRule.fires comparison comparison.trim = false ∧
      bracketedRule.fires comparison comparison.trim = false := by
  intro loop header comparison brace
  obtain ⟨hopen, hbracketed, happend, hcomparison⟩ := conditions_reported_by_position
  have hloop : openRule.fires loop loop.trim = true :=
    (hopen loop (by decide)).mpr ⟨0, 5, 8, ⟨by decide, by decide, by decide, by decide +kernel⟩,
      by decide +kernel, ⟨by decide, by decide, by decide, by decide, by decide, by decide⟩,
      by decide⟩
  have hunclosed : ∀ q < 10, header[q]? ≠ some (CodePoint.ofChar ')') := by
    decide
  have hheader : bracketedRule.fires header header.trim = true :=
    (hbracketed header).mpr ⟨0, 3, 4, 10, ⟨by decide, by decide, by decide, by decide +kernel⟩,
      ⟨by decide, by decide +kernel, by decide⟩,
      ⟨by decide, by decide, by decide, by decide, by decide, by decide⟩, by decide,
      fun q _ hq => hunclosed q (by omega), 20, by decide, by decide⟩
  have htouches : ∀ k, comparison[k]? = some (CodePoint.ofChar '=') →
      comparison.TouchesComparison k := by
    have hplaces : ∀ k < comparison.length, comparison[k]? = some (CodePoint.ofChar '=') →
        comparison.TouchesComparison k := by
      decide
    intro k hk
    exact hplaces k (List.getElem?_eq_some_iff.mp hk).1 hk
  refine ⟨hloop, hheader, fun behind => ?_, ?_, ?_⟩
  · exact happend openRule (by simp) loop brace behind (by decide +kernel) hloop
  · exact hcomparison openRule (by simp) comparison htouches
  · exact hcomparison bracketedRule (by simp) comparison htouches

end Condition

end SnippetReview
