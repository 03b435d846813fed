import SnippetReview.Proofs.Text.Lines

/-!
Texts up to the amount of blanks between what is visible. Squeezing leaves one space of each run of
blanks and none at the end, so that texts with the same trimmed lines are squeezed to the same text;
and words that are read with blanks between them are read alike before and after.
-/

set_option autoImplicit false

namespace SnippetReview.Text

/-- The text with a single space for each run of blanks that something visible follows. The flag
says whether blanks stand directly before the text. -/
def squeeze : Bool → Text → Text
  | _, [] => []
  | gap, c :: text =>
    if c.isBlank then squeeze true text
    else if gap then CodePoint.ofChar ' ' :: c :: squeeze false text
    else c :: squeeze false text

variable {c : CodePoint} {left right text word : Text}

@[simp] theorem squeeze_nil (gap : Bool) : squeeze gap [] = [] := by
  cases gap <;> rfl

theorem squeeze_cons_of_blank (hc : c.isBlank = true) (gap : Bool) (text : Text) :
    squeeze gap (c :: text) = squeeze true text := by
  rw [squeeze, if_pos hc]

theorem squeeze_false_cons (hc : c.isBlank = false) (text : Text) :
    squeeze false (c :: text) = c :: squeeze false text := by
  rw [squeeze, if_neg (by simp [hc]), if_neg Bool.false_ne_true]

theorem squeeze_true_cons (hc : c.isBlank = false) (text : Text) :
    squeeze true (c :: text) = CodePoint.ofChar ' ' :: squeeze false (c :: text) := by
  rw [squeeze_false_cons hc, squeeze, if_neg (by simp [hc]), if_pos rfl]

private theorem squeeze_true_append (hleft : ∀ c ∈ left, c.isBlank = true) (text : Text) :
    squeeze true (left ++ text) = squeeze true text := by
  induction left with
  | nil => rfl
  | cons c left ih =>
    rw [List.forall_mem_cons] at hleft
    rw [List.cons_append, squeeze_cons_of_blank hleft.1, ih hleft.2]

private theorem squeeze_append_cons (hc : c.isBlank = true) (gap : Bool) (text right : Text) :
    squeeze gap (text ++ c :: right) = squeeze gap text ++ squeeze true right := by
  induction text generalizing gap with
  | nil => rw [List.nil_append, squeeze_cons_of_blank hc, squeeze_nil, List.nil_append]
  | cons d text ih =>
    rw [List.cons_append]
    cases hd : d.isBlank with
    | true => rw [squeeze_cons_of_blank hd, ih, squeeze_cons_of_blank hd]
    | false =>
      cases gap with
      | true => rw [squeeze_true_cons hd, squeeze_true_cons hd, squeeze_false_cons hd, ih,
          squeeze_false_cons hd]; rfl
      | false => rw [squeeze_false_cons hd, ih, squeeze_false_cons hd]; rfl

private theorem squeeze_append_of_blank (hright : ∀ c ∈ right, c.isBlank = true) (gap : Bool)
    (text : Text) : squeeze gap (text ++ right) = squeeze gap text := by
  cases right with
  | nil => rw [List.append_nil]
  | cons c right =>
    rw [List.forall_mem_cons] at hright
    have hnil := squeeze_true_append hright.2 []
    rw [List.append_nil, squeeze_nil] at hnil
    rw [squeeze_append_cons hright.1, hnil, List.append_nil]

private theorem squeeze_true_trim (text : Text) : squeeze true text.trim = squeeze true text := by
  obtain ⟨left, right, htext, hleft, hright⟩ := exists_trim text
  conv_rhs => rw [htext]
  rw [squeeze_true_append hleft, squeeze_append_of_blank hright]

/-- A text is squeezed line by line, and of each line only the trimmed text counts. -/
theorem squeeze_true_eq_flatMap (source : Text) :
    squeeze true source = (source.lines.map trim).flatMap (squeeze true) := by
  induction source using lines_induction with
  | last line hline =>
    simp only [lines_of_not_mem hline, List.map_cons, List.map_nil, List.flatMap_cons,
      List.flatMap_nil, List.append_nil, squeeze_true_trim]
  | next line rest hline ih =>
    rw [lines_append_newline hline, List.map_cons, List.flatMap_cons, ← ih, squeeze_true_trim,
      squeeze_append_cons (by decide)]

theorem squeeze_false_append (hword : ∀ c ∈ word, c.isBlank = false) (text : Text) :
    squeeze false (word ++ text) = word ++ squeeze false text := by
  induction word with
  | nil => rfl
  | cons c word ih =>
    rw [List.forall_mem_cons] at hword
    rw [List.cons_append, squeeze_false_cons hword.1, ih hword.2, List.cons_append]

private theorem isBlank_head_squeeze_true (text : Text) (h : (squeeze true text).head? = some c) :
    c.isBlank = true := by
  induction text with
  | nil => simp at h
  | cons d text ih =>
    cases hd : d.isBlank with
    | true =>
      rw [squeeze_cons_of_blank hd] at h
      exact ih h
    | false =>
      rw [squeeze_true_cons hd, List.head?_cons, Option.some.injEq] at h
      rw [← h]
      decide

theorem exists_of_squeeze_eq_append (hword : ∀ c ∈ word, c.isBlank = false) {rest : Text}
    (h : squeeze false text = word ++ rest) :
    ∃ more, text = word ++ more ∧ rest = squeeze false more := by
  induction word generalizing text with
  | nil => exact ⟨text, rfl, h.symm⟩
  | cons c word ih =>
    rw [List.forall_mem_cons] at hword
    cases text with
    | nil => simp at h
    | cons d text =>
      cases hd : d.isBlank with
      | true =>
        rw [squeeze_cons_of_blank hd] at h
        have hc := @isBlank_head_squeeze_true c text (by rw [h]; rfl)
        rw [hword.1] at hc
        exact absurd hc Bool.false_ne_true
      | false =>
        rw [squeeze_false_cons hd, List.cons_append, List.cons.injEq] at h
        obtain ⟨more, rfl, hrest⟩ := ih hword.2 h.2
        exact ⟨more, by rw [h.1, List.cons_append], hrest⟩

private theorem eq_nil_of_blank_append {gap rest : Text} (hgap : ∀ c ∈ gap, c.isBlank = true)
    (hhead : ∀ c, text.head? = some c → c.isBlank = false) (h : text = gap ++ rest) : gap = [] := by
  cases gap with
  | nil => rfl
  | cons c gap =>
    have hc := hhead c (by rw [h]; rfl)
    rw [hgap c (by simp)] at hc
    exact absurd hc.symm Bool.false_ne_true

private theorem exists_squeeze_gap_append {gap : Text} (hgap : ∀ c ∈ gap, c.isBlank = true)
    (hword : IsVisible word) (rest : Text) :
    ∃ space, squeeze false (gap ++ (word ++ rest)) = space ++ (word ++ squeeze false rest) ∧
      (∀ c ∈ space, c.isBlank = true) ∧ (gap ≠ [] → space ≠ []) := by
  cases gap with
  | nil => exact ⟨[], squeeze_false_append hword.2 rest, by simp, by simp⟩
  | cons c gap =>
    rw [List.forall_mem_cons] at hgap
    obtain ⟨d, more, rfl⟩ := List.exists_cons_of_ne_nil hword.1
    refine ⟨[CodePoint.ofChar ' '], ?_, by decide, by simp⟩
    rw [List.cons_append, squeeze_cons_of_blank hgap.1, squeeze_true_append hgap.2,
      List.cons_append, squeeze_true_cons (hword.2 d (by simp)), ← List.cons_append,
      squeeze_false_append hword.2]
    rfl

private theorem exists_of_squeeze_eq_gap_append {space rest : Text}
    (hspace : ∀ c ∈ space, c.isBlank = true)
    (hword : IsVisible word) (h : squeeze false text = space ++ (word ++ rest)) :
    ∃ gap more, text = gap ++ (word ++ more) ∧ (∀ c ∈ gap, c.isBlank = true) ∧
      (space ≠ [] → gap ≠ []) ∧ rest = squeeze false more := by
  obtain ⟨gap, htext, hgap⟩ := exists_trimLeft text
  have hvisible : ∀ more : Text, squeeze false text.trimLeft = more ++ (word ++ rest) →
      (∀ c ∈ more, c.isBlank = true) →
        ∃ more, text.trimLeft = word ++ more ∧ rest = squeeze false more := by
    intro more hmore hblank
    have hnil : more = [] := by
      refine eq_nil_of_blank_append hblank ?_ hmore
      cases hbody : text.trimLeft with
      | nil => simp
      | cons d body =>
        have hd : d.isBlank = false := isBlank_head_trimLeft text (by rw [hbody]; rfl)
        intro c hc
        rw [squeeze_false_cons hd] at hc
        cases hc
        exact hd
    rw [hnil, List.nil_append] at hmore
    exact exists_of_squeeze_eq_append hword.2 hmore
  cases gap with
  | nil =>
    rw [List.nil_append] at htext
    obtain ⟨more, hmore, hrest⟩ := hvisible space (by rw [← htext, h]) hspace
    have hnil : space = [] := by
      refine eq_nil_of_blank_append hspace ?_ h
      rw [htext, hmore, squeeze_false_append hword.2]
      exact hword.head _
    exact ⟨[], more, by rw [htext, hmore, List.nil_append], by simp, absurd hnil, hrest⟩
  | cons c gap =>
    rw [htext, List.cons_append, squeeze_cons_of_blank (hgap c (by simp)),
      squeeze_true_append (List.forall_mem_cons.mp hgap).2] at h
    cases hbody : text.trimLeft with
    | nil =>
      rw [hbody, squeeze_nil] at h
      simp [hword.1] at h
    | cons d body =>
      have hd : d.isBlank = false := isBlank_head_trimLeft text (by rw [hbody]; rfl)
      rw [hbody, squeeze_true_cons hd, ← hbody] at h
      cases space with
      | nil =>
        rw [List.nil_append] at h
        have hc := hword.head rest (CodePoint.ofChar ' ') (by rw [← h]; rfl)
        exact absurd hc (by decide)
      | cons e space =>
        rw [List.cons_append, List.cons.injEq] at h
        obtain ⟨more, hmore, hrest⟩ := hvisible space h.2 (List.forall_mem_cons.mp hspace).2
        exact ⟨c :: gap, more, by rw [htext, hmore], hgap, by simp, hrest⟩

/-- The text begins with the given words, each after some blanks, and the rest comes after them. A
flag before a word says that there has to be a blank. -/
def ReadsWords : List (Bool × Text) → Text → Text → Prop
  | [], text, rest => text = rest
  | (needsGap, word) :: words, text, rest => ∃ gap more, text = gap ++ (word ++ more) ∧
      (∀ c ∈ gap, c.isBlank = true) ∧ (needsGap = true → gap ≠ []) ∧ ReadsWords words more rest

section ReadsWords

variable {words : List (Bool × Text)} {rest : Text}

theorem ReadsWords.exists_append (h : ReadsWords words text rest) :
    ∃ front, text = front ++ rest := by
  induction words generalizing text with
  | nil => exact ⟨[], h⟩
  | cons part words ih =>
    obtain ⟨gap, more, rfl, -, -, hmore⟩ := h
    obtain ⟨front, rfl⟩ := ih hmore
    exact ⟨gap ++ (part.2 ++ front), by simp⟩

theorem ReadsWords.unique (hwords : ∀ word ∈ words, IsVisible word.2) {other : Text}
    (h : ReadsWords words text rest) (hother : ReadsWords words text other) : rest = other := by
  induction words generalizing text with
  | nil => exact h.symm.trans hother
  | cons part words ih =>
    obtain ⟨needsGap, word⟩ := part
    rw [List.forall_mem_cons] at hwords
    obtain ⟨gap, more, htext, hgap, -, hmore⟩ := h
    obtain ⟨gap', more', htext', hgap', -, hmore'⟩ := hother
    obtain ⟨c, letters, hword⟩ := List.exists_cons_of_ne_nil hwords.1.1
    have hc : c.isBlank = false := hwords.1.2 c (by rw [hword]; simp)
    dsimp only at hword htext htext'
    rw [hword, List.cons_append] at htext htext'
    obtain ⟨-, -, hrest⟩ := eq_of_run_append_cons hgap hgap' hc hc (htext.symm.trans htext')
    rw [← List.append_cancel_left hrest] at hmore'
    exact ih hwords.2 hmore hmore'

/-- Words that a text begins with, its squeezed text begins with. -/
theorem ReadsWords.squeeze (hwords : ∀ word ∈ words, IsVisible word.2)
    (h : ReadsWords words text rest) :
    ReadsWords words (squeeze false text) (Text.squeeze false rest) := by
  induction words generalizing text with
  | nil => exact congrArg (Text.squeeze false) h
  | cons part words ih =>
    obtain ⟨needsGap, word⟩ := part
    rw [List.forall_mem_cons] at hwords
    obtain ⟨gap, more, rfl, hgap, hneeds, hmore⟩ := h
    obtain ⟨space, hspace, hblank, hne⟩ := exists_squeeze_gap_append hgap hwords.1 more
    exact ⟨space, Text.squeeze false more, hspace, hblank, fun hneed => hne (hneeds hneed),
      ih hwords.2 hmore⟩

/-- Words that a squeezed text begins with, the text itself begins with. -/
theorem ReadsWords.exists_of_squeeze (hwords : ∀ word ∈ words, IsVisible word.2)
    (h : ReadsWords words (Text.squeeze false text) rest) :
    ∃ more, ReadsWords words text more ∧ rest = Text.squeeze false more := by
  induction words generalizing text with
  | nil => exact ⟨text, rfl, h.symm⟩
  | cons part words ih =>
    obtain ⟨needsGap, word⟩ := part
    rw [List.forall_mem_cons] at hwords
    obtain ⟨space, after, hspace, hblank, hneeds, hafter⟩ := h
    obtain ⟨gap, more, rfl, hgap, hne, rfl⟩ :=
      exists_of_squeeze_eq_gap_append hblank hwords.1 hspace
    obtain ⟨last, hlast, hrest⟩ := ih hwords.2 hafter
    exact ⟨last, ⟨gap, more, rfl, hgap, fun hneed => hne (hneeds hneed), hlast⟩, hrest⟩

end ReadsWords

theorem isInfix_takeWhile_squeeze {needle : Text} {p : CodePoint → Bool}
    (hneedle : IsVisible needle) (hall : ∀ c ∈ needle, p c = true)
    (hblank : ∀ c : CodePoint, c.isBlank = true → p c = true) (gap : Bool) (text : Text) :
    needle <:+: (squeeze gap text).takeWhile p ↔ needle <:+: text.takeWhile p := by
  have hskip : ∀ {c : CodePoint} {rest : Text}, c.isBlank = true →
      (needle <:+: (c :: rest).takeWhile p ↔ needle <:+: rest.takeWhile p) := by
    intro c rest hc
    rw [List.takeWhile_cons_of_pos (hblank c hc), List.infix_cons_iff]
    refine or_iff_right ?_
    rintro ⟨more, hmore⟩
    have hhead := hneedle.head more c (by rw [hmore]; rfl)
    rw [hc] at hhead
    exact absurd hhead.symm Bool.false_ne_true
  have hstart : ∀ rest : Text, needle <+: rest.takeWhile p ↔ needle <+: rest := by
    intro rest
    refine ⟨fun h => h.trans (List.takeWhile_prefix p), ?_⟩
    rintro ⟨more, rfl⟩
    rw [List.takeWhile_append_of_pos hall]
    exact List.prefix_append ..
  have hbegins : ∀ rest : Text, needle <+: squeeze false rest ↔ needle <+: rest := by
    intro rest
    constructor
    · rintro ⟨more, hmore⟩
      obtain ⟨before, rfl, -⟩ := exists_of_squeeze_eq_append hneedle.2 hmore.symm
      exact List.prefix_append ..
    · rintro ⟨more, rfl⟩
      rw [squeeze_false_append hneedle.2]
      exact List.prefix_append ..
  induction text generalizing gap with
  | nil => rw [squeeze_nil]
  | cons c text ih =>
    cases hc : c.isBlank with
    | true =>
      rw [squeeze_cons_of_blank hc]
      exact (ih true).trans (hskip hc).symm
    | false =>
      have hvisible : needle <:+: (squeeze false (c :: text)).takeWhile p ↔
          needle <:+: (c :: text).takeWhile p := by
        have hfirst := (hstart (squeeze false (c :: text))).trans
          ((hbegins (c :: text)).trans (hstart (c :: text)).symm)
        rw [squeeze_false_cons hc] at hfirst ⊢
        cases hp : p c with
        | true =>
          rw [List.takeWhile_cons_of_pos hp, List.takeWhile_cons_of_pos hp] at hfirst ⊢
          rw [List.infix_cons_iff, List.infix_cons_iff]
          exact or_congr hfirst (ih false)
        | false =>
          rw [List.takeWhile_cons_of_neg (by simp [hp]), List.takeWhile_cons_of_neg (by simp [hp])]
      cases gap with
      | true => rw [squeeze_true_cons hc, hskip (by decide), hvisible]
      | false => exact hvisible

end SnippetReview.Text
