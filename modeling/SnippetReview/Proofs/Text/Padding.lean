import SnippetReview.Proofs.Text.Blank
import SnippetReview.Proofs.Text.Pattern

/-!
Searching a padded text. What begins and ends outside of the padding is found in a padded text
exactly if it is found in the text itself, provided that the padding has no word characters, so that
the edges of words stay where they are.
-/

set_option autoImplicit false

namespace SnippetReview

theorem not_mem_of_forall {α : Type} {p : α → Bool} {b : Bool} {a : α} {l : List α}
    (hl : ∀ x ∈ l, p x = b) (ha : p a = !b) : a ∉ l := by
  intro hmem
  rw [hl a hmem] at ha
  cases b <;> simp at ha

theorem exists_split_of_padded {α : Type} {left text right front matched back : List α}
    (h : left ++ (text ++ right) = front ++ (matched ++ back))
    (hhead : ∃ c, matched.head? = some c ∧ c ∉ left)
    (hlast : ∃ c, matched.getLast? = some c ∧ c ∉ right) :
    ∃ front' back', front = left ++ front' ∧ back = back' ++ right ∧
      text = front' ++ (matched ++ back') := by
  obtain ⟨first, hfirst, hleft⟩ := hhead
  obtain ⟨last, hlast, hright⟩ := hlast
  have hfront : ∃ front', front = left ++ front' ∧ text ++ right = front' ++ (matched ++ back) := by
    obtain ⟨front', hfront, hrest⟩ | ⟨cut, hcut, hrest⟩ := List.append_eq_append_iff.mp h
    · exact ⟨front', hfront, hrest⟩
    · cases cut with
      | nil => exact ⟨[], by rw [hcut]; simp, by simpa using hrest.symm⟩
      | cons c cut =>
        have hc : first = c := by
          have := congrArg List.head? hrest
          rw [List.head?_append, hfirst] at this
          simpa using this
        exact absurd (by simp [hcut, hc]) hleft
  obtain ⟨front', hfront, hrest⟩ := hfront
  rw [← List.append_assoc] at hrest
  obtain ⟨cut, hcut, hback⟩ | ⟨back', htext, hback⟩ := List.append_eq_append_iff.mp hrest
  -- The part cannot reach into the padding behind, since it ends with something outside of it.
  · obtain rfl | hne := eq_or_ne cut []
    · exact ⟨front', [], hfront, by simpa using hback.symm, by simpa using hcut.symm⟩
    · have hc : cut.getLast? = some last := by
        have := congrArg List.getLast? hcut
        rw [List.getLast?_append_of_ne_nil _ hne,
          List.getLast?_append_of_ne_nil _ (by rintro rfl; simp at hlast), hlast] at this
        exact this.symm
      exact absurd (hback ▸ List.mem_append_left back (List.mem_of_getLast? hc)) hright
  · exact ⟨front', back', hfront, hback, by rw [htext, List.append_assoc]⟩

namespace Text

variable {needle : Text}

theorem occursIn_iff_isInfix (text : Text) : occursIn needle text = true ↔ needle <:+: text := by
  induction text with
  | nil => simp [occursIn]
  | cons c text ih => rw [occursIn, Bool.or_eq_true, List.isPrefixOf_iff_prefix, ih,
      List.infix_cons_iff]

/-- Words that avoid the padding are found in the padded text or not at all. -/
theorem occursIn_padded {left right : Text} (hne : needle ≠ []) (hleft : ∀ c ∈ needle, c ∉ left)
    (hright : ∀ c ∈ needle, c ∉ right) (text : Text) :
    occursIn needle (left ++ (text ++ right)) = occursIn needle text := by
  rw [Bool.eq_iff_iff, occursIn_iff_isInfix, occursIn_iff_isInfix]
  constructor
  · rintro ⟨front, back, h⟩
    rw [List.append_assoc] at h
    obtain ⟨front', back', -, -, htext⟩ := exists_split_of_padded h.symm
      ⟨_, List.head?_eq_some_head hne, hleft _ (List.head_mem hne)⟩
      ⟨_, List.getLast?_eq_some_getLast hne, hright _ (List.getLast_mem hne)⟩
    exact ⟨front', back', by rw [htext, List.append_assoc]⟩
  · rintro ⟨front, back, rfl⟩
    exact ⟨left ++ front, back ++ right, by simp⟩

theorem occursIn_trim {needle : Text} (hneedle : IsVisible needle) (text : Text) :
    occursIn needle text.trim = occursIn needle text := by
  obtain ⟨left, right, htext, hleft, hright⟩ := exists_trim text
  conv_rhs => rw [htext]
  rw [occursIn_padded hneedle.1 (fun c hc => not_mem_of_forall hleft (hneedle.2 c hc))
    fun c hc => not_mem_of_forall hright (hneedle.2 c hc)]

theorem any_getLast_of_blank {left : Text} (hleft : ∀ c ∈ left, c.isBlank = true) :
    left.getLast?.any CodePoint.isWord = false := by
  rw [← Cursor.lastOf_none]
  exact Cursor.any_lastOf_eq_false rfl fun c hc => CodePoint.isWord_eq_false_of_isBlank (hleft c hc)

theorem exists_trim_append {text : Text} (htext : text.trim ≠ []) (left right : Text) :
    ∃ front back, (left ++ (text ++ right)).trim = front ++ (text.trim ++ back) ∧
      (left.getLast?.any CodePoint.isWord = false → front.getLast?.any CodePoint.isWord = false) := by
  obtain ⟨lead, tail, hsplit, hlead, -⟩ := exists_trim text
  obtain ⟨outer, outer', hwhole, houter, houter'⟩ := exists_trim (left ++ (text ++ right))
  have hparts : outer ++ ((left ++ (text ++ right)).trim ++ outer') =
      (left ++ lead) ++ (text.trim ++ (tail ++ right)) := by
    rw [← hwhole]
    conv_lhs => rw [hsplit]
    simp only [List.append_assoc]
  have hhead := List.head?_eq_some_head htext
  have hlast := List.getLast?_eq_some_getLast htext
  obtain ⟨front, back, hfront, -, htrim⟩ := exists_split_of_padded hparts
    ⟨_, hhead, not_mem_of_forall houter (isBlank_head_trim hhead)⟩
    ⟨_, hlast, not_mem_of_forall houter' (isBlank_last_trim hlast)⟩
  refine ⟨front, back, htrim, fun hleft => ?_⟩
  -- What stands in front now ends as the text put there did, or with a blank of the text.
  have hboth := Cursor.any_getLast_append hleft (any_getLast_of_blank hlead)
  rw [hfront] at hboth
  exact Cursor.any_getLast_of_append hboth

end Text

namespace Pattern

open Cursor

variable {pattern : Pattern} {left right : Text}

/-- What a pattern matches begins and ends outside of some padding. -/
structure Avoids (pattern : Pattern) (left right : Text) : Prop where
  finish : pattern.asksFinish = false
  head : ∀ {before matched rest}, pattern.Matches before matched rest →
    ∃ c, matched.head? = some c ∧ c ∉ left
  last : ∀ {before matched rest}, pattern.Matches before matched rest →
    ∃ c, matched.getLast? = some c ∧ c ∉ right

theorem exists_head_append {first second : Pattern} {p : CodePoint → Prop}
    (hfirst : ∀ {before matched rest}, first.Matches before matched rest →
      ∃ c, matched.head? = some c ∧ p c) {before : Option CodePoint} {matched rest : Text}
    (h : (first ++ second).Matches before matched rest) : ∃ c, matched.head? = some c ∧ p c := by
  obtain ⟨front, back, rfl, hfront, -⟩ := matches_append.mp h
  obtain ⟨c, hc, hp⟩ := hfirst hfront
  exact ⟨c, by rw [List.head?_append, hc, Option.some_or], hp⟩

private theorem any_head_append {right : Text} (hright : ∀ c ∈ right, c.isWord = false)
    (back : Text) :
    (back ++ right).head?.any CodePoint.isWord = back.head?.any CodePoint.isWord := by
  cases back with
  | nil => cases right <;> simp_all
  | cons c back => rfl

theorem occursIn_padded (havoids : pattern.Avoids left right)
    (hleft : ∀ c ∈ left, c.isWord = false) (hright : ∀ c ∈ right, c.isWord = false) (text : Text) :
    pattern.occursIn (left ++ (text ++ right)) = pattern.occursIn text := by
  have hbefore : ∀ front, (lastOf none (left ++ front)).any CodePoint.isWord =
      (lastOf none front).any CodePoint.isWord := by
    intro front
    rw [lastOf_append]
    refine any_lastOf_congr front ?_
    rw [any_lastOf_eq_false rfl hleft]
    rfl
  rw [Bool.eq_iff_iff, occursIn_iff, occursIn_iff]
  constructor
  · rintro ⟨front, matched, back, h, hmatch⟩
    obtain ⟨front', back', rfl, rfl, rfl⟩ :=
      exists_split_of_padded h (havoids.head hmatch) (havoids.last hmatch)
    exact ⟨front', matched, back', rfl, hmatch.of_context havoids.finish (hbefore front')
      (any_head_append hright back')⟩
  · rintro ⟨front, matched, back, rfl, hmatch⟩
    refine ⟨left ++ front, matched, back ++ right, by simp, ?_⟩
    exact hmatch.of_context havoids.finish (hbefore front).symm (any_head_append hright back).symm

/-- A mark that is no word character, put behind a visible end of a text, lets a pattern occur no
more than before if the pattern takes the mark only behind a blank. -/
theorem occursIn_append_mark {mark : CodePoint} (hmark : mark.isWord = false)
    (hfinish : pattern.asksFinish = false)
    (hends : ∀ {before matched rest}, pattern.Matches before matched rest →
      ∃ front c, matched = front ++ [c] ∧
        (c = mark → ∃ b, front.getLast? = some b ∧ b.isBlank = true))
    {text : Text} (hvisible : ∀ b, text.getLast? = some b → b.isBlank = false) :
    pattern.occursIn (text ++ [mark]) = pattern.occursIn text := by
  have hmarks : ∀ c ∈ [mark], c.isWord = false := List.forall_mem_singleton.mpr hmark
  rw [Bool.eq_iff_iff, occursIn_iff, occursIn_iff]
  constructor
  · rintro ⟨front, matched, back, h, hmatch⟩
    obtain ⟨body, c, rfl, hblank⟩ := hends hmatch
    rcases List.eq_nil_or_concat back with rfl | ⟨back', b, hback⟩
    -- The match ends with the mark, so it holds a blank where the text ends visibly.
    · have hsplit : text ++ [mark] = (front ++ body) ++ [c] := by
        simpa using h
      obtain ⟨htext, hc⟩ := List.append_inj' hsplit rfl
      rw [List.cons.injEq] at hc
      obtain ⟨b, hb, hgap⟩ := hblank hc.1.symm
      have hlast : text.getLast? = some b := by
        rw [htext, List.getLast?_append, hb, Option.some_or]
      rw [hvisible b hlast] at hgap
      exact absurd hgap Bool.false_ne_true
    · rw [List.concat_eq_append] at hback
      subst hback
      have hsplit : text ++ [mark] = (front ++ ((body ++ [c]) ++ back')) ++ [b] := by
        simpa using h
      obtain ⟨htext, hb⟩ := List.append_inj' hsplit rfl
      refine ⟨front, body ++ [c], back', htext, hmatch.of_context hfinish rfl ?_⟩
      rw [← hb]
      exact any_head_append hmarks back'
  · rintro ⟨front, matched, back, rfl, hmatch⟩
    refine ⟨front, matched, back ++ [mark], by simp, ?_⟩
    exact hmatch.of_context hfinish rfl (any_head_append hmarks back).symm

private theorem matchesStart_append_right (havoids : pattern.Avoids [] right)
    (hright : ∀ c ∈ right, c.isWord = false) (text : Text) :
    pattern.matchesStart (text ++ right) = pattern.matchesStart text := by
  rw [Bool.eq_iff_iff, matchesStart_iff, matchesStart_iff]
  constructor
  · rintro ⟨matched, back, h, hmatch⟩
    have hsplit : [] ++ (text ++ right) = [] ++ (matched ++ back) := h
    obtain ⟨front, back', hfront, rfl, htext⟩ :=
      exists_split_of_padded hsplit (havoids.head hmatch) (havoids.last hmatch)
    rw [List.nil_append] at hfront
    subst hfront
    exact ⟨matched, back', htext,
      hmatch.of_context havoids.finish rfl (any_head_append hright back')⟩
  · rintro ⟨matched, back, rfl, hmatch⟩
    exact ⟨matched, back ++ right, by simp,
      hmatch.of_context havoids.finish rfl (any_head_append hright back).symm⟩

theorem matchesStart_append_assoc (first second third : Pattern) (text : Text) :
    (first ++ second ++ third).matchesStart text =
      (first ++ (second ++ third)).matchesStart text := by
  change (!((_ : List Cursor).flatMap _).isEmpty) = !((_ : List Cursor).flatMap _).isEmpty
  congr 2
  exact List.flatMap_assoc

theorem matchesStart_blanks_append (hfinish : pattern.asksFinish = false)
    (hhead : ∀ {before matched rest}, pattern.Matches before matched rest →
      ∃ c, matched.head? = some c ∧ c.isBlank = false) (text : Text) :
    (blanks ++ pattern).matchesStart text = pattern.matchesStart text.trimLeft := by
  obtain ⟨left, htext, hleft⟩ := Text.exists_trimLeft text
  have hword : ∀ c ∈ left, c.isWord = false := fun c hc =>
    CodePoint.isWord_eq_false_of_isBlank (hleft c hc)
  rw [Bool.eq_iff_iff, matchesStart_iff, matchesStart_iff]
  constructor
  · rintro ⟨passed, rest, hpassed, hmatch⟩
    obtain ⟨gap, matched, rfl, hgap, hmatch⟩ := matches_append.mp hmatch
    rw [matches_blanks] at hgap
    have hrest : text.trimLeft = matched ++ rest := by
      rw [hpassed, List.append_assoc, Text.trimLeft_append_of_blank hgap]
      refine Text.trimLeft_eq_self fun c hc => ?_
      obtain ⟨d, hd, hvisible⟩ := hhead hmatch
      rw [List.head?_append, hd, Option.some_or, Option.some.injEq] at hc
      rwa [← hc]
    refine ⟨matched, rest, hrest, hmatch.of_context hfinish ?_ rfl⟩
    rw [any_lastOf_eq_false rfl fun c hc => CodePoint.isWord_eq_false_of_isBlank (hgap c hc)]
    rfl
  · rintro ⟨matched, rest, hrest, hmatch⟩
    refine ⟨left ++ matched, rest, by rw [List.append_assoc, ← hrest, ← htext], ?_⟩
    refine matches_append.mpr ⟨left, matched, rfl, matches_blanks.mpr hleft, ?_⟩
    refine hmatch.of_context hfinish ?_ rfl
    rw [any_lastOf_eq_false rfl hword]
    rfl

theorem matchesStart_blanks_trim (hfinish : pattern.asksFinish = false)
    (hhead : ∀ {before matched rest}, pattern.Matches before matched rest →
      ∃ c, matched.head? = some c ∧ c.isBlank = false)
    (hlast : ∀ {before matched rest}, pattern.Matches before matched rest →
      ∃ c, matched.getLast? = some c ∧ c.isBlank = false) (text : Text) :
    (blanks ++ pattern).matchesStart text.trim = (blanks ++ pattern).matchesStart text := by
  obtain ⟨right, htext, hright⟩ := Text.exists_trimRight text.trimLeft
  have havoids : pattern.Avoids [] right := by
    refine ⟨hfinish, fun h => ?_, fun h => ?_⟩
    · obtain ⟨c, hc, -⟩ := hhead h
      exact ⟨c, hc, List.not_mem_nil⟩
    · obtain ⟨c, hc, hvisible⟩ := hlast h
      exact ⟨c, hc, not_mem_of_forall hright hvisible⟩
  rw [matchesStart_blanks_append hfinish hhead, matchesStart_blanks_append hfinish hhead,
    Text.trimLeft_trim, htext, matchesStart_append_right havoids fun c hc =>
      CodePoint.isWord_eq_false_of_isBlank (hright c hc)]
  rfl

theorem matchesStart_append_blanks (text : Text) :
    (pattern ++ blanks).matchesStart text = pattern.matchesStart text := by
  rw [Bool.eq_iff_iff, matchesStart_iff, matchesStart_iff]
  constructor
  · rintro ⟨passed, rest, rfl, hmatch⟩
    obtain ⟨matched, gap, rfl, hmatch, -⟩ := matches_append.mp hmatch
    exact ⟨matched, gap ++ rest, List.append_assoc .., hmatch⟩
  · rintro ⟨matched, rest, rfl, hmatch⟩
    exact ⟨matched, rest, rfl, matches_append.mpr ⟨matched, [], by simp, hmatch, by simp⟩⟩

end Pattern

end SnippetReview
