import SnippetReview.Proofs.Text.Basic
import SnippetReview.Proofs.Text.Padding
import SnippetReview.Text.Case

/-!
Lower case. A code point is mapped by itself, but for the capital sigma, which looks at its
neighbours; so up to the form of the sigma the lower case of a text is put together from its code
points, and words without a sigma stay found when the text is put between other texts. The cases of an
ASCII letter have the same lower case everywhere.
-/

set_option autoImplicit false

namespace SnippetReview

namespace CodePoint

/-- The sigma inside of a word. -/
def smallSigma : CodePoint := ⟨0x3C3, by decide⟩

/-- The code point, with the sigma at the end of a word made the one inside. -/
def unifySigma (c : CodePoint) : CodePoint :=
  if c = finalSigma then smallSigma else c

/-- The number of a code point, with that of a small ASCII letter for the capital one. -/
def foldedValue (c : CodePoint) : Nat :=
  if 0x41 ≤ c.value ∧ c.value ≤ 0x5A then c.value + 0x20 else c.value

private theorem lower_capitalSigma : capitalSigma.lower = [smallSigma] := by
  decide +kernel

private theorem unifySigma_eq_iff {c d : CodePoint} (hfinal : d ≠ finalSigma)
    (hsmall : d ≠ smallSigma) :
    c.unifySigma = d ↔ c = d := by
  rw [unifySigma]
  split
  · next hc =>
    subst hc
    simp [hfinal.symm, hsmall.symm]
  · rfl

private theorem eq_or_isAsciiLetter {c d : CodePoint} (h : c.foldedValue = d.foldedValue) :
    c = d ∨ (c.isAsciiLetter = true ∧ d.isAsciiLetter = true) := by
  obtain ⟨m, hm⟩ := c
  obtain ⟨n, hn⟩ := d
  simp only [foldedValue, isAsciiLetter, CodePoint.mk.injEq, Bool.or_eq_true, Bool.and_eq_true,
    decide_eq_true_eq] at h ⊢
  split at h <;> split at h <;> omega

private theorem lower_of_isAsciiLetter {c : CodePoint} (hc : c.isAsciiLetter = true) :
    c.lower = (ofNat? c.foldedValue).toList := by
  have hascii : c.value < 0x80 := by
    simp only [isAsciiLetter, Bool.or_eq_true, Bool.and_eq_true, decide_eq_true_eq] at hc
    omega
  rw [lower, if_pos hascii, foldedValue]
  simp only [Bool.and_eq_true, decide_eq_true_eq]
  split
  · rfl
  · rw [ofNat?_value]
    rfl

private theorem of_isAsciiLetter {p : Nat → Prop}
    (h : ∀ n < 0x7B, 0x41 ≤ n → n ≤ 0x5A ∨ 0x61 ≤ n → p n)
    {c : CodePoint} (hc : c.isAsciiLetter = true) : p c.value := by
  simp only [isAsciiLetter, Bool.or_eq_true, Bool.and_eq_true, decide_eq_true_eq] at hc
  exact h c.value (by omega) (by omega) (by omega)

private theorem cased_of_isAsciiLetter {c : CodePoint} (hc : c.isAsciiLetter = true) :
    casedRanges.contain c.value = true ∧ caseIgnorableRanges.contain c.value = false :=
  of_isAsciiLetter
    (p := fun n => casedRanges.contain n = true ∧ caseIgnorableRanges.contain n = false)
    (by decide +kernel) hc

private theorem lower_congr {c d : CodePoint} (h : c.foldedValue = d.foldedValue) :
    c.lower = d.lower := by
  obtain rfl | ⟨hc, hd⟩ := eq_or_isAsciiLetter h
  · rfl
  · rw [lower_of_isAsciiLetter hc, lower_of_isAsciiLetter hd, h]

private theorem eq_capitalSigma_congr {c d : CodePoint} (h : c.foldedValue = d.foldedValue) :
    c = capitalSigma ↔ d = capitalSigma := by
  obtain rfl | ⟨hc, hd⟩ := eq_or_isAsciiLetter h
  · rfl
  · have hsigma : capitalSigma.isAsciiLetter = false := by
      decide
    constructor
    · rintro rfl
      rw [hsigma] at hc
      cases hc
    · rintro rfl
      rw [hsigma] at hd
      cases hd

private theorem casedFirst_congr {neighbours others : Text}
    (h : neighbours.map foldedValue = others.map foldedValue) :
    casedFirst neighbours = casedFirst others := by
  induction neighbours generalizing others with
  | nil =>
    obtain rfl := List.map_eq_nil_iff.mp h.symm
    rfl
  | cons c neighbours ih =>
    obtain ⟨d, others, rfl, hd, hothers⟩ := List.map_eq_cons_iff.mp h.symm
    have hrest := ih hothers.symm
    rw [casedFirst, casedFirst] at hrest ⊢
    obtain rfl | ⟨hcletter, hdletter⟩ := eq_or_isAsciiLetter hd.symm
    · cases hignorable : caseIgnorableRanges.contain c.value with
      | true => simpa [hignorable] using hrest
      | false => simp [hignorable]
    · simp [cased_of_isAsciiLetter hcletter, cased_of_isAsciiLetter hdletter]

end CodePoint

namespace Text

open CodePoint

variable {needle text other : Text}

def AvoidsSigma (needle : Text) : Prop :=
  ∀ c ∈ needle, c ≠ finalSigma ∧ c ≠ smallSigma

instance (needle : Text) : Decidable (AvoidsSigma needle) :=
  inferInstanceAs (Decidable (∀ c ∈ needle, _))

private theorem isInfix_map_unifySigma_iff (hneedle : AvoidsSigma needle) (text : Text) :
    needle <:+: text.map unifySigma ↔ needle <:+: text := by
  have hself : ∀ found : Text, found.map unifySigma = needle ↔ found = needle := by
    intro found
    induction needle generalizing found with
    | nil => exact List.map_eq_nil_iff
    | cons d needle ih =>
      rw [AvoidsSigma, List.forall_mem_cons] at hneedle
      cases found with
      | nil => simp
      | cons c found =>
        rw [List.map_cons, List.cons.injEq, List.cons.injEq, ih hneedle.2,
          unifySigma_eq_iff hneedle.1.1 hneedle.1.2]
  rw [List.infix_map_iff]
  constructor
  · rintro ⟨found, hfound, hmap⟩
    rwa [← (hself found).mp hmap.symm]
  · intro h
    exact ⟨needle, h, ((hself needle).mpr rfl).symm⟩

private theorem map_unifySigma_lowerAfter (before text : Text) :
    (lowerAfter before text).map unifySigma = (text.flatMap CodePoint.lower).map unifySigma := by
  induction text generalizing before with
  | nil => rfl
  | cons c rest ih =>
    rw [lowerAfter, List.map_append, ih, List.flatMap_cons, List.map_append]
    refine congrArg (· ++ _) ?_
    split
    · next hfinal =>
      simp only [Bool.and_eq_true, decide_eq_true_eq] at hfinal
      rw [hfinal.1.1, lower_capitalSigma]
      decide
    · rfl

/-- A word without a sigma is found in the lower case of a text if it is found in the lower cases of
its code points. -/
private theorem isInfix_lower_iff (hneedle : AvoidsSigma needle) :
    needle <:+: text.lower ↔ needle <:+: text.flatMap CodePoint.lower := by
  rw [← isInfix_map_unifySigma_iff hneedle, lower, map_unifySigma_lowerAfter,
    isInfix_map_unifySigma_iff hneedle]

/-- It is still found between other texts, although these can change the lower case of the text. -/
theorem isInfix_lower_append (hneedle : AvoidsSigma needle) (h : needle <:+: text.lower)
    (before after : Text) : needle <:+: (before ++ (text ++ after)).lower := by
  rw [isInfix_lower_iff hneedle] at h ⊢
  rw [List.flatMap_append, List.flatMap_append]
  exact h.trans ⟨_, _, List.append_assoc ..⟩

theorem lower_congr (h : text.map foldedValue = other.map foldedValue) :
    text.lower = other.lower := by
  have hafter : ∀ before before' : Text, before.map foldedValue = before'.map foldedValue →
      lowerAfter before text = lowerAfter before' other := by
    induction text generalizing other with
    | nil =>
      obtain rfl := List.map_eq_nil_iff.mp h.symm
      exact fun _ _ _ => rfl
    | cons c text ih =>
      obtain ⟨d, other, rfl, hd, hother⟩ := List.map_eq_cons_iff.mp h.symm
      intro before before' hbefore
      have hrest := ih hother.symm (c :: before) (d :: before') (by simp [hd, hbefore])
      rw [lowerAfter, lowerAfter, hrest, CodePoint.lower_congr hd, casedFirst_congr hbefore,
        casedFirst_congr hother]
      simp only [eq_capitalSigma_congr hd]
  exact hafter [] [] rfl

end Text

end SnippetReview
