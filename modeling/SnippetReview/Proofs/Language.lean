import SnippetReview.Language
import SnippetReview.Proofs.Text.Case

/-!
Which language a hint names. The words that are looked for overlap, and the first language that fits
is taken. Main statement: a hint names a language exactly if it has one of five short words in it, a
script stays a script and a language stays a language whatever text the hint is put into, and the case
of ASCII letters does not count.
-/

set_option autoImplicit false

namespace SnippetReview.Language

open Text CodePoint

/-- The words that a hint must have one of to name a language. -/
def markers : List Text := ["js", "ts", "py", "java", "c"]

def scriptWords : List Text := ["js", "javascript", "ts", "typescript"]

/-- The languages in their order, each with the words that a hint in lower case has or lacks if it
names that language. -/
inductive Named (hint : Text) : Language → Prop where
  | javascript (h : mentions scriptWords hint = true) : Named hint javascript
  | python (hscript : mentions scriptWords hint = false) (h : mentions ["python", "py"] hint = true) :
      Named hint python
  | java (hscript : mentions scriptWords hint = false) (h : mentions ["java"] hint = true)
      (halone : mentions ["script"] hint = false) : Named hint java
  | c (hscript : mentions scriptWords hint = false) (h : mentions ["c"] hint = true) : Named hint c
  | other (hscript : mentions scriptWords hint = false)
      (hpython : mentions ["python", "py"] hint = false)
      (hjava : mentions ["java"] hint = true → mentions ["script"] hint = true)
      (hc : mentions ["c"] hint = false) : Named hint other

section Lower

variable {hint : Text} {words : List Text} {language : Language}

private theorem named_ofLower (hint : Text) : Named hint (ofLower hint) := by
  rw [ofLower]
  split
  · next hscript => exact .javascript hscript
  · next hscript =>
    rw [Bool.not_eq_true] at hscript
    split
    · next hpython => exact .python hscript hpython
    · next hpython =>
      rw [Bool.not_eq_true] at hpython
      split
      · next hjava =>
        rw [Bool.and_eq_true, Bool.not_eq_true'] at hjava
        exact .java hscript hjava.1 hjava.2
      · next hjava =>
        rw [Bool.and_eq_true, Bool.not_eq_true', not_and, Bool.not_eq_false] at hjava
        split
        · next hc => exact .c hscript hc
        · next hc => exact .other hscript hpython hjava (Bool.eq_false_iff.mpr hc)

private theorem mentions_iff : mentions words hint = true ↔ ∃ word ∈ words, word <:+: hint := by
  simp only [mentions, List.any_eq_true, occursIn_iff_isInfix]

private theorem mentions_eq_false_iff :
    mentions words hint = false ↔ ∀ word ∈ words, ¬ word <:+: hint := by
  rw [← Bool.not_eq_true, mentions_iff]
  simp only [not_exists, not_and]

private theorem mentions_of_mentions {parts : List Text}
    (hwords : ∀ word ∈ words, ∃ part ∈ parts, part.occursIn word = true)
    (h : mentions words hint = true) : mentions parts hint = true := by
  obtain ⟨word, hword, hoccurs⟩ := mentions_iff.mp h
  obtain ⟨part, hpart, hinside⟩ := hwords word hword
  exact mentions_iff.mpr ⟨part, hpart, ((occursIn_iff_isInfix word).mp hinside).trans hoccurs⟩

private theorem Named.eq_javascript_iff (h : Named hint language) :
    language = .javascript ↔ mentions scriptWords hint = true := by
  cases h with
  | javascript h => simp only [h]
  | python hscript | java hscript | c hscript | other hscript => simp [hscript]

private theorem Named.eq_other_iff (h : Named hint language) :
    language = .other ↔ mentions markers hint = false := by
  have hmarkers : ∀ {words : List Text},
      (∀ word ∈ words, ∃ part ∈ markers, part.occursIn word = true) →
        mentions words hint = true → mentions markers hint = true := mentions_of_mentions
  cases h with
  | javascript h | python _ h | java _ h | c _ h => simp [hmarkers (by decide) h]
  | other hscript hpython hjava hc =>
    rw [eq_self_iff_true, true_iff, Bool.eq_false_iff]
    intro hmentions
    obtain ⟨marker, hmarker, hoccurs⟩ := mentions_iff.mp hmentions
    simp only [markers, List.mem_cons, List.not_mem_nil, or_false] at hmarker
    obtain rfl | rfl | rfl | rfl | rfl := hmarker
    · exact mentions_eq_false_iff.mp hscript _ (by decide) hoccurs
    · exact mentions_eq_false_iff.mp hscript _ (by decide) hoccurs
    · exact mentions_eq_false_iff.mp hpython _ (by decide) hoccurs
    · -- Java is only passed over next to "script", which has a "c" in it.
      have hjavaScript := hjava (mentions_iff.mpr ⟨_, List.mem_singleton_self _, hoccurs⟩)
      rw [mentions_of_mentions (by decide) hjavaScript] at hc
      cases hc
    · exact mentions_eq_false_iff.mp hc _ (List.mem_singleton_self _) hoccurs

private theorem Named.ne_java (h : Named hint language)
    (hscript : Text.ofString "script" <:+: hint) :
    language ≠ .java := by
  rintro rfl
  cases h with
  | java _ _ halone => exact mentions_eq_false_iff.mp halone _ (List.mem_singleton_self _) hscript

end Lower

/-- What a hint mentions in lower case it also mentions with other text around it. -/
private theorem mentions_lower_append {words : List Text}
    (hwords : ∀ word ∈ words, AvoidsSigma word)
    {hint : Text} (h : mentions words hint.lower = true) (before after : Text) :
    mentions words (before ++ (hint ++ after)).lower = true := by
  obtain ⟨word, hword, hoccurs⟩ := mentions_iff.mp h
  exact mentions_iff.mpr
    ⟨word, hword, isInfix_lower_append (hwords word hword) hoccurs before after⟩

/-- A hint names no language exactly if none of the markers is in its lower case, and never Java if
"script" is. Hints that differ in the case of ASCII letters name the same language. With other text
around it, a hint that names a script still names one, and a hint that names a language still names
one. -/
theorem resolve_is_stable :
    (∀ hint : Option Text, resolve hint = other ↔
      ∀ marker ∈ markers, ¬ marker <:+: (hint.getD []).lower) ∧
    (∀ hint : Option Text, Text.ofString "script" <:+: (hint.getD []).lower →
      resolve hint ≠ java) ∧
    (∀ hint variant : Text, hint.map foldedValue = variant.map foldedValue →
      resolve (some hint) = resolve (some variant)) ∧
    (∀ before hint after : Text, resolve (some hint) = javascript →
      resolve (some (before ++ (hint ++ after))) = javascript) ∧
    (∀ before hint after : Text, resolve (some hint) ≠ other →
      resolve (some (before ++ (hint ++ after))) ≠ other) := by
  refine ⟨fun hint => ?_, fun hint hscript => ?_, fun hint variant hfold => ?_,
    fun before hint after hscript => ?_, fun before hint after hnamed => ?_⟩
  · rw [resolve, (named_ofLower _).eq_other_iff, mentions_eq_false_iff]
  · exact (named_ofLower _).ne_java hscript
  · simp only [resolve, Option.getD_some, Text.lower_congr hfold]
  · have hmentions := (named_ofLower _).eq_javascript_iff.mp hscript
    exact (named_ofLower _).eq_javascript_iff.mpr
      (mentions_lower_append (by decide) hmentions before after)
  · intro hother
    have hnone := (named_ofLower _).eq_other_iff.mp hother
    have hmentions : mentions markers hint.lower = true := by
      rw [← Bool.not_eq_false]
      exact fun hfalse => hnamed ((named_ofLower _).eq_other_iff.mpr hfalse)
    have hstill := mentions_lower_append (by decide) hmentions before after
    rw [Option.getD_some] at hnone
    rw [hnone] at hstill
    cases hstill

/-- The sigma that ends a word inside of the longer hint has another lower case there. -/
theorem resolve_is_stable_of_final_sigma :
    let hint : Text := Text.ofString "jS ΑΣ"
    let variant : Text := Text.ofString "Js ΑΣ"
    let whole : Text := Text.ofString "ΑΣ" ++ (hint ++ Text.ofString "Α")
    resolve (some hint) = javascript ∧ resolve (some variant) = resolve (some hint) ∧
      ¬ hint.lower <:+: whole.lower ∧ resolve (some whole) = javascript := by
  intro hint variant whole
  obtain ⟨-, -, hcase, hscript, -⟩ := resolve_is_stable
  have hresolve : resolve (some hint) = javascript := by
    decide +kernel
  have hchanged : ¬ hint.lower <:+: whole.lower := by
    rw [← occursIn_iff_isInfix]
    decide +kernel
  exact ⟨hresolve, hcase variant hint (by decide +kernel), hchanged, hscript _ hint _ hresolve⟩

end SnippetReview.Language
