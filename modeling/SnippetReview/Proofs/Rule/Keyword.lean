import SnippetReview.Proofs.Rule.Condition

/-!
The leftmost keyword of a text. A keyword stands in a text where no word character touches it, and
the search for the keyword of a line finds the leftmost place where one stands.
-/

set_option autoImplicit false

namespace SnippetReview.Condition

open Cursor Pattern Text

/-- One of the keywords stands behind the front and before the rest of a text, and no word character
touches it. -/
structure StandsAt (keywords : List Text) (text front word rest : Text) : Prop where
  split : text = front ++ (word ++ rest)
  mem : word ∈ keywords
  left : front.getLast?.any CodePoint.isWord = false
  right : rest.head?.any CodePoint.isWord = false

/-- One of the keywords stands in a text, and none stands further to the left. -/
structure IsLeftmost (keywords : List Text) (text front word rest : Text) : Prop
    extends StandsAt keywords text front word rest where
  first : ∀ {earlier other later}, StandsAt keywords text earlier other later →
    front.length ≤ earlier.length

variable {keywords : List Text} (hkeywords : ∀ word ∈ keywords, IsWord word)
  {text front word rest earlier other later : Text}

theorem StandsAt.of_trim (hstands : StandsAt keywords text.trim front word rest) :
    ∃ left right, StandsAt keywords text (left ++ front) word (rest ++ right) := by
  obtain ⟨left, right, htext, hleft, hright⟩ := exists_trim text
  refine ⟨left, right, ?_, hstands.mem,
    any_getLast_append (any_getLast_of_blank hleft) hstands.left, ?_⟩
  · rw [htext, hstands.split]
    simp only [List.append_assoc]
  · cases rest with
    | cons c rest => exact hstands.right
    | nil =>
      cases right with
      | nil => rfl
      | cons c right => exact CodePoint.isWord_eq_false_of_isBlank (hright c List.mem_cons_self)

include hkeywords

private theorem partAfter_keyword_eq_some_iff {back : Text} :
    partAfter .boundary (Pattern.oneOf keywords ++ .boundary) ⟨lastOf none front, back⟩ =
      some word ↔ ∃ rest, StandsAt keywords (front ++ back) front word rest := by
  rw [keyword_at hkeywords, lastOf_none]
  constructor
  · intro h
    split at h
    · next hplace =>
      rw [Option.some.injEq] at h
      subst h
      exact ⟨back.dropWhile CodePoint.isWord, by rw [List.takeWhile_append_dropWhile], hplace.2,
        hplace.1, any_head_dropWhile back⟩
    · cases h
  · rintro ⟨rest, hstands⟩
    have hback := List.append_cancel_left hstands.split
    have hrun : back.takeWhile CodePoint.isWord = word := by
      rw [hback, takeWhile_isWord_append (hkeywords word hstands.mem) hstands.right]
    rw [hrun, if_pos ⟨hstands.left, hstands.mem⟩]

private theorem partAfter_keyword_eq_none_iff {back : Text} :
    partAfter .boundary (Pattern.oneOf keywords ++ .boundary) ⟨lastOf none front, back⟩ = none ↔
      ∀ word rest, ¬ StandsAt keywords (front ++ back) front word rest := by
  rw [Option.eq_none_iff_forall_ne_some]
  refine forall_congr' fun word => ?_
  rw [ne_eq, partAfter_keyword_eq_some_iff hkeywords, not_exists]

/-- The search for a keyword finds the leftmost. -/
private theorem keyword?_eq_some_iff : keyword? keywords text = some word ↔
    ∃ front rest, IsLeftmost keywords text front word rest := by
  rw [keyword?, Pattern.find?, findFrom_eq_some_iff]
  constructor
  · rintro ⟨front, back, rfl, hfound, hnone⟩
    obtain ⟨rest, hstands⟩ := (partAfter_keyword_eq_some_iff hkeywords).mp hfound
    refine ⟨front, rest, hstands, ?_⟩
    intro earlier other later hearlier
    by_contra hlength
    have hsplit := hearlier.split
    have habsent := hnone earlier _ hsplit (Nat.lt_of_not_le hlength)
    rw [partAfter_keyword_eq_none_iff hkeywords, ← hsplit] at habsent
    exact habsent other later hearlier
  · rintro ⟨front, rest, hleftmost⟩
    have hsplit := hleftmost.split
    refine ⟨front, word ++ rest, hsplit, ?_, ?_⟩
    · rw [partAfter_keyword_eq_some_iff hkeywords, ← hsplit]
      exact ⟨rest, hleftmost.toStandsAt⟩
    · intro earlier later hearlier hlength
      rw [partAfter_keyword_eq_none_iff hkeywords, ← hearlier]
      intro other more hstands
      exact absurd hlength (Nat.not_lt_of_le (hleftmost.first hstands))

theorem IsLeftmost.keyword_eq (hleftmost : IsLeftmost keywords text front word rest) :
    keyword keywords text = word := by
  have hfound := (keyword?_eq_some_iff hkeywords).mpr ⟨front, rest, hleftmost⟩
  rw [keyword, hfound, Option.getD_some]

theorem StandsAt.exists_between (hstands : StandsAt keywords text front word rest)
    (hearlier : StandsAt keywords text earlier other later)
    (hlength : earlier.length < front.length) :
    ∃ between, later = between ++ (word ++ rest) ∧
      StandsAt keywords front earlier other between := by
  have hsplit := hearlier.split.symm.trans hstands.split
  obtain ⟨cut, rfl, hcut⟩ | ⟨cut, hearlierFront, -⟩ := List.append_eq_append_iff.mp hsplit
  · have hword := hkeywords other hearlier.mem
    have hne : cut ≠ [] := by
      rintro rfl
      simp at hlength
    obtain ⟨between, rfl, hlater⟩ | ⟨tail, rfl, -⟩ := List.append_eq_append_iff.mp hcut
    · refine ⟨between, hlater, rfl, hearlier.mem, hearlier.left, ?_⟩
      cases between with
      | nil => rfl
      | cons c between => simpa [hlater] using hearlier.right
    -- A keyword that reaches beyond would put a word character before the other one.
    · have hlast := hword.2 (cut.getLast hne) (List.mem_append_left tail (List.getLast_mem hne))
      have hleft := hstands.left
      rw [List.getLast?_append_of_ne_nil _ hne, List.getLast?_eq_some_getLast hne, Option.any_some,
        hlast] at hleft
      cases hleft
  · rw [hearlierFront, List.length_append] at hlength
    omega

theorem StandsAt.unique (hstands : StandsAt keywords text front word rest)
    (hother : StandsAt keywords text earlier other later)
    (hlength : earlier.length = front.length) :
    earlier = front ∧ other = word ∧ later = rest := by
  obtain ⟨rfl, hback⟩ := List.append_inj (hother.split.symm.trans hstands.split) hlength
  have hrun := congrArg (List.takeWhile CodePoint.isWord) hback
  rw [takeWhile_isWord_append (hkeywords other hother.mem) hother.right,
    takeWhile_isWord_append (hkeywords word hstands.mem) hstands.right] at hrun
  subst hrun
  exact ⟨rfl, rfl, List.append_cancel_left hback⟩

private theorem StandsAt.append (hstands : StandsAt keywords text front word rest)
    (hfront : StandsAt keywords front earlier other later) :
    StandsAt keywords text earlier other (later ++ (word ++ rest)) := by
  refine ⟨?_, hfront.mem, hfront.left, ?_⟩
  · rw [hstands.split, hfront.split]
    simp
  · cases later with
    | cons c later => exact hfront.right
    | nil =>
      obtain ⟨hne, hletters⟩ := hkeywords other hfront.mem
      have hleft := hstands.left
      rw [hfront.split, List.append_nil, List.getLast?_append_of_ne_nil _ hne,
        List.getLast?_eq_some_getLast hne, Option.any_some, hletters _ (List.getLast_mem hne)]
        at hleft
      cases hleft

/-- The leftmost keyword in front of a keyword is the leftmost of all. -/
theorem IsLeftmost.append (hfront : IsLeftmost keywords front earlier other later)
    (hstands : StandsAt keywords text front word rest) :
    IsLeftmost keywords text earlier other (later ++ (word ++ rest)) := by
  refine ⟨hstands.append hkeywords hfront.toStandsAt, ?_⟩
  intro first word' more hfirst
  by_contra hlength
  have hshort : earlier.length ≤ front.length := by
    rw [hfront.split]
    simp
  obtain ⟨between, -, hinside⟩ := hstands.exists_between hkeywords hfirst (by omega)
  exact hlength (hfront.first hinside)

theorem StandsAt.isLeftmost (hstands : StandsAt keywords text front word rest)
    (hnone : ∀ earlier other later, ¬ StandsAt keywords front earlier other later) :
    IsLeftmost keywords text front word rest := by
  refine ⟨hstands, ?_⟩
  intro earlier other later hearlier
  by_contra hlength
  obtain ⟨between, -, hinside⟩ :=
    hstands.exists_between hkeywords hearlier (Nat.lt_of_not_le hlength)
  exact hnone earlier other between hinside

theorem StandsAt.exists_isLeftmost (hstands : StandsAt keywords text front word rest) :
    ∃ earlier other later, keyword? keywords text = some other ∧
      IsLeftmost keywords text earlier other later := by
  have hplace : partAfter .boundary (Pattern.oneOf keywords ++ .boundary)
      ⟨lastOf none front, word ++ rest⟩ = some word := by
    rw [partAfter_keyword_eq_some_iff hkeywords, ← hstands.split]
    exact ⟨rest, hstands⟩
  have hsome : (keyword? keywords text).isSome = true :=
    isSome_findFrom_iff.mpr ⟨front, word ++ rest, hstands.split, by rw [hplace]; rfl⟩
  obtain ⟨other, hother⟩ := Option.isSome_iff_exists.mp hsome
  obtain ⟨earlier, later, hleftmost⟩ := (keyword?_eq_some_iff hkeywords).mp hother
  exact ⟨earlier, other, later, hother, hleftmost⟩

theorem StandsAt.trim {gap : Text} {c : CodePoint} (hc : c.isBlank = false)
    (hstands : StandsAt keywords text front word (gap ++ c :: rest)) :
    ∃ front' rest', StandsAt keywords text.trim front' word (gap ++ c :: rest') := by
  obtain ⟨left, right, htext, hleft, hright⟩ := exists_trim text
  obtain ⟨b, hhead, hb⟩ := (hkeywords word hstands.mem).isVisible.exists_head
  have hsplit : left ++ (text.trim ++ right) = front ++ ((word ++ (gap ++ [c])) ++ rest) := by
    rw [← htext, hstands.split]
    simp
  obtain ⟨front', rest', rfl, -, htrim⟩ := exists_split_of_padded hsplit
    ⟨b, by rw [List.head?_append, hhead, Option.some_or], not_mem_of_forall hleft hb⟩
    ⟨c, by rw [← List.append_assoc, List.getLast?_concat], not_mem_of_forall hright hc⟩
  refine ⟨front', rest', by simp [htrim], hstands.mem, any_getLast_of_append hstands.left, ?_⟩
  have hedge := hstands.right
  cases gap <;> exact hedge

end SnippetReview.Condition
