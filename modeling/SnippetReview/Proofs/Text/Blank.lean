import Mathlib.Data.List.DropRight
import SnippetReview.Text.Blank
import SnippetReview.Text.Digit
import SnippetReview.Text.Word

/-!
Blanks and trimming. A blank is no word character, a text is its trimmed text between blanks, and
what is trimmed begins and ends visibly.
-/

set_option autoImplicit false

namespace SnippetReview

def Ranges.values (ranges : Ranges) : List Nat :=
  ranges.flatMap fun range => List.range' range.1 (range.2 + 1 - range.1)

private theorem Ranges.mem_values_iff {ranges : Ranges} {n : Nat} :
    n ∈ ranges.values ↔ ranges.contain n = true := by
  simp only [values, contain, List.mem_flatMap, List.mem_range'_1, List.any_eq_true,
    Bool.and_eq_true, decide_eq_true_eq]
  exact exists_congr fun range => and_congr_right fun _ => by omega

def Ranges.apart (ranges others : Ranges) : Bool :=
  ranges.all fun range => others.all fun other => range.2 < other.1 || other.2 < range.1

private theorem Ranges.contain_eq_false_of_apart {ranges others : Ranges}
    (happart : ranges.apart others)
    {n : Nat} (hn : ranges.contain n = true) : others.contain n = false := by
  obtain ⟨range, hrange, hin⟩ := List.any_eq_true.mp hn
  rw [contain, List.any_eq_false]
  intro other hother
  have hsides := List.all_eq_true.mp (List.all_eq_true.mp happart range hrange) other hother
  simp only [Bool.or_eq_true, Bool.and_eq_true, decide_eq_true_eq] at hsides hin ⊢
  omega

theorem CodePoint.isWord_of_ascii {c : CodePoint} (h : c.value < 0x80) :
    c.isWord = (c.isAsciiAlphanumeric || c.value == 0x5F) := by
  have habove : ∀ range ∈ alphanumericRanges, 0x80 ≤ range.1 := by
    decide +kernel
  have hnot : alphanumericRanges.contain c.value = false := by
    rw [Ranges.contain, List.any_eq_false]
    intro range hrange
    have hlow := habove range hrange
    simp only [Bool.and_eq_true, decide_eq_true_eq]
    omega
  rw [isWord, isAlphanumeric, hnot, Bool.or_false]

/-- What holds of each blank in turn holds of every blank. -/
theorem CodePoint.of_isBlank {p : CodePoint → Prop}
    (h : ∀ n ∈ blankRanges.values, ∀ bound : n < 0x110000, p ⟨n, bound⟩) {c : CodePoint}
    (hc : c.isBlank = true) : p c :=
  h c.value (Ranges.mem_values_iff.mpr hc) c.inRange

theorem CodePoint.isWord_eq_false_of_isBlank {c : CodePoint} (h : c.isBlank = true) :
    c.isWord = false := by
  have happart : blankRanges.apart alphanumericRanges = true := by
    decide +kernel
  have hascii : (c.isAsciiAlphanumeric || c.value == 0x5F) = false := by
    refine CodePoint.of_isBlank
      (p := fun c => (c.isAsciiAlphanumeric || c.value == 0x5F) = false) ?_ h
    decide
  rw [isWord, isAlphanumeric, Ranges.contain_eq_false_of_apart happart h, Bool.or_false, hascii]

theorem CodePoint.isBlank_eq_false_of_isWord {c : CodePoint} (h : c.isWord = true) :
    c.isBlank = false := by
  rw [Bool.eq_false_iff]
  intro hblank
  rw [isWord_eq_false_of_isBlank hblank] at h
  exact Bool.false_ne_true h

theorem CodePoint.isBlank_eq_false_of_isDigit {c : CodePoint} (h : c.isDigit = true) :
    c.isBlank = false := by
  rw [Bool.eq_false_iff]
  intro hblank
  have hnone : c.isDigit = false :=
    CodePoint.of_isBlank (p := fun c => c.isDigit = false) (by decide) hblank
  rw [hnone] at h
  cases h

namespace Text

variable {text left right : Text}

private theorem trimRight_eq_rdropWhile (text : Text) :
    text.trimRight = text.rdropWhile CodePoint.isBlank :=
  rfl

theorem exists_trimLeft (text : Text) :
    ∃ left, text = left ++ text.trimLeft ∧ ∀ c ∈ left, c.isBlank = true :=
  ⟨text.takeWhile CodePoint.isBlank, List.takeWhile_append_dropWhile.symm,
    fun _ h => List.mem_takeWhile_imp h⟩

theorem exists_trimRight (text : Text) :
    ∃ right, text = text.trimRight ++ right ∧ ∀ c ∈ right, c.isBlank = true :=
  ⟨text.rtakeWhile CodePoint.isBlank, List.rdropWhile_append_rtakeWhile.symm,
    fun _ h => List.mem_rtakeWhile_imp h⟩

theorem exists_trim (text : Text) : ∃ left right, text = left ++ (text.trim ++ right) ∧
    (∀ c ∈ left, c.isBlank = true) ∧ ∀ c ∈ right, c.isBlank = true := by
  obtain ⟨left, hleft, hblank⟩ := exists_trimLeft text
  obtain ⟨right, hright, hblank'⟩ := exists_trimRight text.trimLeft
  exact ⟨left, right, by rwa [trim, ← hright], hblank, hblank'⟩

theorem trimLeft_append_of_blank (hleft : ∀ c ∈ left, c.isBlank = true) :
    (left ++ text).trimLeft = text.trimLeft :=
  List.dropWhile_append_of_pos hleft

theorem trimLeft_eq_self (h : ∀ c, text.head? = some c → c.isBlank = false) :
    text.trimLeft = text := by
  cases text with
  | nil => rfl
  | cons c text => exact List.dropWhile_cons_of_neg (by simp [h c rfl])

theorem trimRight_append_of_blank (hright : ∀ c ∈ right, c.isBlank = true) :
    (text ++ right).trimRight = text.trimRight := by
  rw [trimRight, List.reverse_append, List.dropWhile_append_of_pos (by simpa using hright),
    trimRight]

theorem trimRight_eq_self (h : ∀ c, text.getLast? = some c → c.isBlank = false) :
    text.trimRight = text := by
  rw [trimRight_eq_rdropWhile, List.rdropWhile_eq_self_iff]
  intro hne
  simp [h _ (List.getLast?_eq_some_getLast hne)]

theorem isBlank_head_trimLeft (text : Text) {c : CodePoint} (h : text.trimLeft.head? = some c) :
    c.isBlank = false := by
  rw [trimLeft, ← List.find?_not_eq_head?_dropWhile] at h
  simpa using List.find?_some h

theorem isBlank_last_trim {c : CodePoint} (h : text.trim.getLast? = some c) :
    c.isBlank = false := by
  rw [trim, trimRight, List.getLast?_reverse] at h
  exact isBlank_head_trimLeft text.trimLeft.reverse h

theorem isBlank_head_trim {c : CodePoint} (h : text.trim.head? = some c) : c.isBlank = false := by
  obtain ⟨right, hright, -⟩ := exists_trimRight text.trimLeft
  refine isBlank_head_trimLeft text ?_
  rw [hright, List.head?_append]
  rw [trim] at h
  rw [h, Option.some_or]

@[simp] theorem trimLeft_trim (text : Text) : text.trim.trimLeft = text.trim :=
  trimLeft_eq_self fun _ => isBlank_head_trim

@[simp] theorem trimRight_trim (text : Text) : text.trim.trimRight = text.trim :=
  trimRight_eq_self fun _ => isBlank_last_trim

@[simp] theorem trim_trim (text : Text) : text.trim.trim = text.trim := by
  rw [trim, trimLeft_trim, trimRight_trim]

theorem mem_of_mem_trim {c : CodePoint} (h : c ∈ text.trim) : c ∈ text := by
  obtain ⟨left, right, htext, -, -⟩ := exists_trim text
  rw [htext]
  exact List.mem_append_right _ (List.mem_append_left _ h)

theorem trim_eq_nil_iff : text.trim = [] ↔ text.isBlank = true := by
  rw [isBlank, List.all_eq_true]
  constructor
  · intro hnil
    obtain ⟨left, right, htext, hleft, hright⟩ := exists_trim text
    rw [htext, hnil, List.nil_append, List.forall_mem_append]
    exact ⟨hleft, hright⟩
  · intro hblank
    rw [trim, trimLeft, List.dropWhile_eq_nil_iff.mpr hblank]
    rfl

theorem trim_padded (hleft : ∀ c ∈ left, c.isBlank = true)
    (hright : ∀ c ∈ right, c.isBlank = true) : (left ++ (text ++ right)).trim = text.trim := by
  rw [trim, trimLeft_append_of_blank hleft, trim]
  obtain ⟨front, hfront, hblank⟩ := exists_trimLeft text
  by_cases hnil : text.trimLeft = []
  · have hall : ∀ c ∈ text ++ right, c.isBlank = true := by
      rw [hfront, hnil, List.append_nil]
      exact List.forall_mem_append.mpr ⟨hblank, hright⟩
    rw [hnil, trimLeft, List.dropWhile_eq_nil_iff.mpr hall]
  · have hcons : (text ++ right).trimLeft = text.trimLeft ++ right := by
      rw [trimLeft, List.dropWhile_append, if_neg (by rwa [List.isEmpty_iff])]
      rfl
    rw [hcons, trimRight_append_of_blank hright]

def IsVisible (word : Text) : Prop :=
  word ≠ [] ∧ ∀ c ∈ word, c.isBlank = false

def IsWord (word : Text) : Prop :=
  word ≠ [] ∧ ∀ c ∈ word, c.isWord = true

instance (word : Text) : Decidable (IsVisible word) :=
  inferInstanceAs (Decidable (_ ∧ _))

instance (word : Text) : Decidable (IsWord word) :=
  inferInstanceAs (Decidable (_ ∧ _))

theorem IsWord.isVisible {word : Text} (h : IsWord word) : IsVisible word :=
  ⟨h.1, fun c hc => CodePoint.isBlank_eq_false_of_isWord (h.2 c hc)⟩

theorem IsWord.any_head {word : Text} (h : IsWord word) :
    word.head?.any CodePoint.isWord = true := by
  rw [List.head?_eq_some_head h.1]
  exact h.2 _ (List.head_mem h.1)

theorem IsVisible.not_mem_newline {word : Text} (hword : IsVisible word) :
    CodePoint.ofChar '\n' ∉ word :=
  fun hmem => absurd (hword.2 _ hmem) (by decide)

theorem IsVisible.head {word : Text} (hword : IsVisible word) (rest : Text) (c : CodePoint)
    (hc : (word ++ rest).head? = some c) : c.isBlank = false := by
  obtain ⟨d, more, rfl⟩ := List.exists_cons_of_ne_nil hword.1
  cases hc
  exact hword.2 c (by simp)

theorem IsVisible.exists_head {word : Text} (hword : IsVisible word) :
    ∃ c, word.head? = some c ∧ c.isBlank = false :=
  ⟨_, List.head?_eq_some_head hword.1, hword.2 _ (List.head_mem hword.1)⟩

theorem IsVisible.exists_last {word : Text} (hword : IsVisible word) :
    ∃ c, word.getLast? = some c ∧ c.isBlank = false :=
  ⟨_, List.getLast?_eq_some_getLast hword.1, hword.2 _ (List.getLast_mem hword.1)⟩

end Text

end SnippetReview
