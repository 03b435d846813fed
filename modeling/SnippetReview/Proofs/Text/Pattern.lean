import Mathlib.Data.List.Basic
import SnippetReview.Rule.Class
import SnippetReview.Text.Pattern

/-!
What patterns match, said without places and preferences: `Matches pattern before matched rest`
says that, after the code point `before`, the pattern can take `matched` off the front of
`matched ++ rest`. A pattern occurs in a text exactly where the text splits into such parts, and
what it can match depends on its surroundings only through the question whether they are word
characters.
-/

set_option autoImplicit false

namespace SnippetReview

theorem eq_of_run_append_cons {α : Type} {p : α → Bool} {u v s t : List α} {c d : α}
    (hu : ∀ a ∈ u, p a = true) (hv : ∀ a ∈ v, p a = true) (hc : p c = false) (hd : p d = false)
    (h : u ++ c :: s = v ++ d :: t) : u = v ∧ c = d ∧ s = t := by
  have hrun := congrArg (List.takeWhile p) h
  rw [List.takeWhile_append_of_pos hu, List.takeWhile_append_of_pos hv,
    List.takeWhile_cons_of_neg (by simp [hc]), List.takeWhile_cons_of_neg (by simp [hd]),
    List.append_nil, List.append_nil] at hrun
  subst hrun
  have hrest := List.append_cancel_left h
  rw [List.cons.injEq] at hrest
  exact ⟨rfl, hrest⟩

theorem any_head_dropWhile {p : CodePoint → Bool} (text : Text) :
    (text.dropWhile p).head?.any p = false := by
  have hstop := List.head?_dropWhile_not p text
  cases hrest : (text.dropWhile p).head? with
  | none => rfl
  | some c => simpa [hrest] using hstop

theorem CodePoint.inLine_of_mem {text : Text} {c : CodePoint} (hline : CodePoint.ofChar '\n' ∉ text)
    (hc : c ∈ text) : c.inLine = true :=
  decide_eq_true (ne_of_mem_of_not_mem hc hline)

namespace Cursor

/-- The code point before a place that is reached by passing some text. -/
def lastOf (before : Option CodePoint) (passed : Text) : Option CodePoint :=
  passed.getLast?.or before

@[simp] theorem lastOf_nil (before : Option CodePoint) : lastOf before [] = before := by
  simp [lastOf]

@[simp] theorem lastOf_cons (before : Option CodePoint) (c : CodePoint) (passed : Text) :
    lastOf before (c :: passed) = lastOf (some c) passed := by
  cases passed with
  | nil => simp [lastOf]
  | cons d passed => simp [lastOf, List.getLast?_cons]

@[simp] theorem lastOf_append (before : Option CodePoint) (passed more : Text) :
    lastOf before (passed ++ more) = lastOf (lastOf before passed) more := by
  induction passed generalizing before with
  | nil => simp
  | cons c passed ih => simp [ih]

theorem lastOf_none (passed : Text) : lastOf none passed = passed.getLast? := by
  simp [lastOf]

theorem upTo_eq {here later : Cursor} {matched : Text} (h : here.rest = matched ++ later.rest) :
    here.upTo later = matched := by
  simp [upTo, h]

theorem any_lastOf_eq_false {before : Option CodePoint} {passed : Text}
    {p : CodePoint → Bool} (hbefore : before.any p = false) (hpassed : ∀ c ∈ passed, p c = false) :
    (lastOf before passed).any p = false := by
  induction passed generalizing before with
  | nil => simpa using hbefore
  | cons c passed ih =>
    rw [lastOf_cons]
    exact ih (by simp [hpassed c]) fun d hd => hpassed d (List.mem_cons_of_mem c hd)

theorem any_lastOf_congr {before before' : Option CodePoint} {p : CodePoint → Bool} (passed : Text)
    (h : before.any p = before'.any p) :
    (lastOf before passed).any p = (lastOf before' passed).any p := by
  cases passed with
  | nil => simpa using h
  | cons c passed => rw [lastOf_cons, lastOf_cons]

theorem any_getLast_append {left front : Text} (hleft : left.getLast?.any CodePoint.isWord = false)
    (hfront : front.getLast?.any CodePoint.isWord = false) :
    (left ++ front).getLast?.any CodePoint.isWord = false := by
  have hsame : left.getLast?.any CodePoint.isWord =
      (none : Option CodePoint).any CodePoint.isWord := hleft
  rw [← lastOf_none, lastOf_append, lastOf_none, any_lastOf_congr front hsame, lastOf_none]
  exact hfront

theorem any_getLast_of_append {left front : Text} {p : CodePoint → Bool}
    (h : (left ++ front).getLast?.any p = false) : front.getLast?.any p = false := by
  cases front with
  | nil => rfl
  | cons c front => rwa [List.getLast?_append_of_ne_nil _ (List.cons_ne_nil c front)] at h

end Cursor

namespace Pattern

open Cursor

/-- After a code point, the pattern can take a text off the front of what follows. -/
def Matches (pattern : Pattern) (before : Option CodePoint) (matched rest : Text) : Prop :=
  ⟨lastOf before matched, rest⟩ ∈ pattern.ends ⟨before, matched ++ rest⟩

private theorem mem_reach_iff {accepts : CodePoint → Bool} {before : Option CodePoint} {text : Text}
    {nearer : List Cursor} {later : Cursor} :
    later ∈ reach accepts before text nearer ↔ later ∈ nearer ∨
      ∃ passed, text = passed ++ later.rest ∧ later.before = lastOf before passed ∧
        ∀ c ∈ passed, accepts c = true := by
  obtain ⟨back, rest⟩ := later
  induction text generalizing before nearer with
  | nil =>
    simp only [reach, List.mem_cons, Cursor.mk.injEq, List.nil_eq_append_iff]
    constructor
    · rintro (⟨rfl, rfl⟩ | hmem)
      · exact Or.inr ⟨[], by simp⟩
      · exact Or.inl hmem
    · rintro (hmem | ⟨passed, ⟨rfl, rfl⟩, hback, -⟩)
      · exact Or.inr hmem
      · exact Or.inl ⟨hback, rfl⟩
  | cons c text ih =>
    rw [reach]
    split
    · next hc =>
      rw [ih, List.mem_cons, Cursor.mk.injEq]
      constructor
      · rintro ((⟨rfl, rfl⟩ | hmem) | ⟨passed, htext, hback, hall⟩)
        · exact Or.inr ⟨[], by simp⟩
        · exact Or.inl hmem
        · refine Or.inr ⟨c :: passed, by rw [htext, List.cons_append], by simpa using hback, ?_⟩
          exact List.forall_mem_cons.mpr ⟨hc, hall⟩
      · rintro (hmem | ⟨passed, htext, hback, hall⟩)
        · exact Or.inl (Or.inr hmem)
        · cases passed with
          | nil => exact Or.inl (Or.inl ⟨by simpa using hback, htext.symm⟩)
          | cons d passed =>
            rw [List.cons_append, List.cons.injEq] at htext
            refine Or.inr ⟨passed, htext.2, ?_, (List.forall_mem_cons.mp hall).2⟩
            rw [htext.1]
            simpa using hback
    · next hc =>
      rw [List.mem_cons, Cursor.mk.injEq]
      constructor
      · rintro (⟨rfl, rfl⟩ | hmem)
        · exact Or.inr ⟨[], by simp⟩
        · exact Or.inl hmem
      · rintro (hmem | ⟨passed, htext, hback, hall⟩)
        · exact Or.inr hmem
        · cases passed with
          | nil => exact Or.inl ⟨by simpa using hback, htext.symm⟩
          | cons d passed =>
            rw [List.cons_append, List.cons.injEq] at htext
            exact absurd (htext.1 ▸ (List.forall_mem_cons.mp hall).1) hc

private theorem exists_of_mem_ends {pattern : Pattern} {here later : Cursor}
    (h : later ∈ pattern.ends here) :
    ∃ matched, here.rest = matched ++ later.rest ∧ later.before = lastOf here.before matched := by
  induction pattern generalizing here later with
  | empty =>
    rw [ends, List.mem_singleton] at h
    exact ⟨[], by simp [h]⟩
  | one accepts =>
    obtain ⟨before, text⟩ := here
    cases text with
    | nil => simp [ends] at h
    | cons c text =>
      simp only [ends] at h
      split at h
      · rw [List.mem_singleton] at h
        exact ⟨[c], by simp [h]⟩
      · simp at h
  | many accepts =>
    rw [ends, mem_reach_iff] at h
    obtain hmem | ⟨passed, htext, hbefore, -⟩ := h
    · simp at hmem
    · exact ⟨passed, htext, hbefore⟩
  | seq first second ihfirst ihsecond =>
    rw [ends, List.mem_flatMap] at h
    obtain ⟨middle, hfirst, hsecond⟩ := h
    obtain ⟨u, hu, hmiddle⟩ := ihfirst hfirst
    obtain ⟨v, hv, hlater⟩ := ihsecond hsecond
    exact ⟨u ++ v, by rw [hu, hv, List.append_assoc], by rw [hlater, hmiddle, lastOf_append]⟩
  | alt first second ihfirst ihsecond =>
    rw [ends, List.mem_append] at h
    exact h.elim ihfirst ihsecond
  | boundary =>
    rw [ends] at h
    split at h
    · rw [List.mem_singleton] at h
      exact ⟨[], by simp [h]⟩
    · simp at h
  | finish =>
    rw [ends] at h
    split at h
    · rw [List.mem_singleton] at h
      exact ⟨[], by simp [h]⟩
    · simp at h

/-- The places where a match can end are the places behind the texts that it can take. -/
theorem mem_ends_iff {pattern : Pattern} {before : Option CodePoint} {text : Text}
    {later : Cursor} :
    later ∈ pattern.ends ⟨before, text⟩ ↔ ∃ matched, text = matched ++ later.rest ∧
      later.before = lastOf before matched ∧ pattern.Matches before matched later.rest := by
  obtain ⟨back, rest⟩ := later
  constructor
  · intro h
    obtain ⟨matched, htext, hback⟩ := exists_of_mem_ends h
    dsimp only at htext hback
    exact ⟨matched, htext, hback, by rwa [Matches, ← htext, ← hback]⟩
  · rintro ⟨matched, htext, hback, hmatch⟩
    dsimp only at htext hback hmatch
    rwa [htext, hback]

section Matches

variable {before : Option CodePoint} {matched rest : Text}

private theorem matched_eq_nil_iff : (⟨lastOf before matched, rest⟩ : Cursor) =
    ⟨before, matched ++ rest⟩ ↔ matched = [] := by
  constructor
  · intro h
    rw [Cursor.mk.injEq] at h
    exact List.self_eq_append_left.mp h.2
  · rintro rfl
    simp

@[simp] theorem matches_empty : empty.Matches before matched rest ↔ matched = [] := by
  rw [Matches, ends, List.mem_singleton, matched_eq_nil_iff]

@[simp] theorem matches_one {accepts : CodePoint → Bool} :
    (one accepts).Matches before matched rest ↔ ∃ c, matched = [c] ∧ accepts c = true := by
  rw [Matches, ends]
  constructor
  · intro h
    split at h
    · simp at h
    · next c text htext =>
      split at h
      · next hc =>
        rw [List.mem_singleton, Cursor.mk.injEq] at h
        refine ⟨c, ?_, hc⟩
        rw [h.2, ← List.singleton_append] at htext
        exact List.append_cancel_right htext
      · simp at h
  · rintro ⟨c, rfl, hc⟩
    simp [hc]

@[simp] theorem matches_many {accepts : CodePoint → Bool} :
    (many accepts).Matches before matched rest ↔ ∀ c ∈ matched, accepts c = true := by
  rw [Matches, ends, mem_reach_iff]
  constructor
  · rintro (hmem | ⟨passed, htext, -, hall⟩)
    · simp at hmem
    · exact List.append_cancel_right htext ▸ hall
  · intro hall
    exact Or.inr ⟨matched, rfl, rfl, hall⟩

theorem matches_many_ne_iff {c : CodePoint} :
    (many (· ≠ c)).Matches before matched rest ↔ c ∉ matched := by
  rw [matches_many]
  constructor
  · intro h hmem
    simpa using h c hmem
  · rintro h d hd
    rw [decide_eq_true_eq]
    rintro rfl
    exact h hd

@[simp] theorem matches_append {first second : Pattern} :
    (first ++ second).Matches before matched rest ↔ ∃ u v, matched = u ++ v ∧
      first.Matches before u (v ++ rest) ∧ second.Matches (lastOf before u) v rest := by
  constructor
  · intro h
    obtain ⟨⟨back, middle⟩, hfirst, hsecond⟩ := List.mem_flatMap.mp h
    obtain ⟨u, hu, hback, hmatch⟩ := mem_ends_iff.mp hfirst
    obtain ⟨v, hv, -, hmatch'⟩ := mem_ends_iff.mp hsecond
    dsimp only at hu hback hmatch hv hmatch'
    subst hback hv
    rw [← List.append_assoc] at hu
    exact ⟨u, v, List.append_cancel_right hu, hmatch, hmatch'⟩
  · rintro ⟨u, v, rfl, hfirst, hsecond⟩
    refine List.mem_flatMap.mpr ⟨⟨lastOf before u, v ++ rest⟩, ?_, ?_⟩
    · exact mem_ends_iff.mpr ⟨u, by simp, rfl, hfirst⟩
    · exact mem_ends_iff.mpr ⟨v, rfl, by simp, hsecond⟩

@[simp] theorem matches_alt {first second : Pattern} :
    (alt first second).Matches before matched rest ↔
      first.Matches before matched rest ∨ second.Matches before matched rest := by
  rw [Matches, ends, List.mem_append, Matches, Matches]

@[simp] theorem matches_boundary :
    boundary.Matches before matched rest ↔
      matched = [] ∧ (Cursor.mk before rest).atBoundary = true := by
  rw [Matches, ends]
  split
  · next hplace =>
    rw [List.mem_singleton, matched_eq_nil_iff]
    exact ⟨fun h => ⟨h, by simpa [h] using hplace⟩, And.left⟩
  · next hplace =>
    simp only [List.not_mem_nil, false_iff]
    rintro ⟨rfl, h⟩
    exact hplace h

@[simp] theorem matches_finish :
    finish.Matches before matched rest ↔
      matched = [] ∧ (Cursor.mk before rest).atFinish = true := by
  rw [Matches, ends]
  split
  · next hplace =>
    rw [List.mem_singleton, matched_eq_nil_iff]
    exact ⟨fun h => ⟨h, by simpa [h] using hplace⟩, And.left⟩
  · next hplace =>
    simp only [List.not_mem_nil, false_iff]
    rintro ⟨rfl, h⟩
    exact hplace h

@[simp] theorem matches_char {c : CodePoint} :
    (char c).Matches before matched rest ↔ matched = [c] := by
  simp [char]

@[simp] theorem matches_exactly {text : Text} :
    (exactly text).Matches before matched rest ↔ matched = text := by
  induction text generalizing before matched with
  | nil => exact matches_empty
  | cons c text ih =>
    change (char c ++ exactly text).Matches before matched rest ↔ matched = c :: text
    rw [matches_append]
    constructor
    · rintro ⟨u, v, rfl, hu, hv⟩
      rw [matches_char.mp hu, ih.mp hv, List.singleton_append]
    · rintro rfl
      exact ⟨[c], text, rfl, matches_char.mpr rfl, ih.mpr rfl⟩

@[simp] theorem matches_oneOf {texts : List Text} :
    (oneOf texts).Matches before matched rest ↔ matched ∈ texts := by
  induction texts with
  | nil => simp [oneOf]
  | cons text texts ih =>
    cases texts with
    | nil => simp [oneOf]
    | cons next texts => rw [oneOf, matches_alt, ih, matches_exactly, List.mem_cons] <;> simp

@[simp] theorem matches_atLeastOne {accepts : CodePoint → Bool} :
    (atLeastOne accepts).Matches before matched rest ↔
      matched ≠ [] ∧ ∀ c ∈ matched, accepts c = true := by
  change (one accepts ++ many accepts).Matches before matched rest ↔ _
  rw [matches_append]
  constructor
  · rintro ⟨u, v, rfl, hu, hv⟩
    obtain ⟨c, rfl, hc⟩ := matches_one.mp hu
    exact ⟨by simp, List.forall_mem_cons.mpr ⟨hc, matches_many.mp hv⟩⟩
  · rintro ⟨hne, hall⟩
    obtain ⟨c, run, rfl⟩ := List.exists_cons_of_ne_nil hne
    rw [List.forall_mem_cons] at hall
    exact ⟨[c], run, rfl, matches_one.mpr ⟨c, rfl, hall.1⟩, matches_many.mpr hall.2⟩

@[simp] theorem matches_blanks :
    blanks.Matches before matched rest ↔ ∀ c ∈ matched, c.isBlank = true :=
  matches_many

@[simp] theorem matches_gap :
    gap.Matches before matched rest ↔ matched ≠ [] ∧ ∀ c ∈ matched, c.isBlank = true :=
  matches_atLeastOne

@[simp] theorem matches_optional {pattern : Pattern} :
    (optional pattern).Matches before matched rest ↔
      pattern.Matches before matched rest ∨ matched = [] := by
  rw [optional, matches_alt, matches_empty]

end Matches

theorem matchesStart_iff {pattern : Pattern} {text : Text} :
    pattern.matchesStart text = true ↔
      ∃ matched rest, text = matched ++ rest ∧ pattern.Matches none matched rest := by
  simp only [matchesStart, Bool.not_eq_true', List.isEmpty_eq_false_iff_exists_mem, start]
  constructor
  · rintro ⟨later, hlater⟩
    obtain ⟨matched, htext, -, hmatch⟩ := mem_ends_iff.mp hlater
    exact ⟨matched, later.rest, htext, hmatch⟩
  · rintro ⟨matched, rest, rfl, hmatch⟩
    exact ⟨⟨lastOf none matched, rest⟩, hmatch⟩

theorem findFrom_cons {α : Type} (test : Cursor → Option α) (before : Option CodePoint)
    (c : CodePoint) (text : Text) : findFrom test before (c :: text) =
      (test ⟨before, c :: text⟩).or (findFrom test (some c) text) := by
  rw [findFrom]
  cases test ⟨before, c :: text⟩ <;> rfl

theorem findFrom_of_start {α : Type} {test : Cursor → Option α} {before : Option CodePoint}
    {text : Text} {found : α} (h : test ⟨before, text⟩ = some found) :
    findFrom test before text = some found := by
  cases text with
  | nil => rw [findFrom, h]
  | cons c text => rw [findFrom_cons, h, Option.some_or]

/-- A test that succeeds somewhere succeeds behind some front of the text. -/
theorem isSome_findFrom_iff {α : Type} {test : Cursor → Option α} {before : Option CodePoint}
    {text : Text} : (findFrom test before text).isSome = true ↔
      ∃ front back, text = front ++ back ∧ (test ⟨lastOf before front, back⟩).isSome = true := by
  induction text generalizing before with
  | nil =>
    rw [findFrom]
    constructor
    · exact fun h => ⟨[], [], rfl, by simpa using h⟩
    · rintro ⟨front, back, hsplit, h⟩
      obtain ⟨rfl, rfl⟩ := List.append_eq_nil_iff.mp hsplit.symm
      simpa using h
  | cons c text ih =>
    rw [findFrom_cons, Option.isSome_or, Bool.or_eq_true, ih]
    constructor
    · rintro (h | ⟨front, back, rfl, h⟩)
      · exact ⟨[], c :: text, rfl, by simpa using h⟩
      · exact ⟨c :: front, back, rfl, by simpa using h⟩
    · rintro ⟨front, back, hsplit, h⟩
      cases front with
      | nil => exact Or.inl (by simpa [hsplit] using h)
      | cons d front =>
        rw [List.cons_append, List.cons.injEq] at hsplit
        exact Or.inr ⟨front, back, hsplit.2, by simpa [hsplit.1] using h⟩

/-- What is found stands behind the shortest front of the text behind which the test succeeds. -/
theorem findFrom_eq_some_iff {α : Type} {test : Cursor → Option α} {before : Option CodePoint}
    {text : Text} {found : α} : findFrom test before text = some found ↔
      ∃ front back, text = front ++ back ∧ test ⟨lastOf before front, back⟩ = some found ∧
        ∀ earlier later, text = earlier ++ later → earlier.length < front.length →
          test ⟨lastOf before earlier, later⟩ = none := by
  induction text generalizing before with
  | nil =>
    rw [findFrom]
    constructor
    · intro h
      exact ⟨[], [], rfl, h, fun earlier later _ hlength => absurd hlength (Nat.not_lt_zero _)⟩
    · rintro ⟨front, back, hsplit, h, -⟩
      obtain ⟨rfl, rfl⟩ := List.append_eq_nil_iff.mp hsplit.symm
      exact h
  | cons c text ih =>
    rw [findFrom_cons]
    cases hhere : test ⟨before, c :: text⟩ with
    | some first =>
      rw [Option.some_or]
      constructor
      · intro h
        exact ⟨[], c :: text, rfl, hhere.trans h,
          fun earlier later _ hlength => absurd hlength (Nat.not_lt_zero _)⟩
      · rintro ⟨front, back, hsplit, h, hfirst⟩
        cases front with
        | nil =>
          rw [List.nil_append] at hsplit
          rw [← h, lastOf_nil, ← hsplit, hhere]
        | cons d front =>
          have hnone := hfirst [] (c :: text) rfl (Nat.succ_pos _)
          rw [lastOf_nil, hhere] at hnone
          cases hnone
    | none =>
      rw [Option.none_or, ih]
      constructor
      · rintro ⟨front, back, rfl, h, hfirst⟩
        refine ⟨c :: front, back, rfl, by rwa [lastOf_cons], ?_⟩
        intro earlier later hsplit hlength
        cases earlier with
        | nil =>
          rw [List.nil_append] at hsplit
          rwa [lastOf_nil, ← hsplit]
        | cons d earlier =>
          rw [List.cons_append, List.cons.injEq] at hsplit
          rw [lastOf_cons, ← hsplit.1]
          exact hfirst earlier later hsplit.2 (Nat.lt_of_succ_lt_succ hlength)
      · rintro ⟨front, back, hsplit, h, hfirst⟩
        cases front with
        | nil =>
          rw [List.nil_append] at hsplit
          rw [lastOf_nil, ← hsplit, hhere] at h
          cases h
        | cons d front =>
          rw [List.cons_append, List.cons.injEq] at hsplit
          obtain ⟨rfl, rfl⟩ := hsplit
          rw [lastOf_cons] at h
          refine ⟨front, back, rfl, h, ?_⟩
          intro earlier later hsplit hlength
          have hnone := hfirst (c :: earlier) later (by rw [hsplit, List.cons_append])
            (Nat.succ_lt_succ hlength)
          rwa [lastOf_cons] at hnone

theorem occursIn_iff {pattern : Pattern} {text : Text} :
    pattern.occursIn text = true ↔ ∃ front matched back, text = front ++ (matched ++ back) ∧
      pattern.Matches (lastOf none front) matched back := by
  rw [occursIn, isSome_findFrom_iff]
  constructor
  · rintro ⟨front, back, rfl, h⟩
    obtain ⟨later, hlater⟩ := Option.isSome_iff_exists.mp h
    obtain ⟨matched, rfl, -, hmatch⟩ := mem_ends_iff.mp (List.mem_of_mem_head? hlater)
    exact ⟨front, matched, later.rest, rfl, hmatch⟩
  · rintro ⟨front, matched, back, rfl, hmatch⟩
    refine ⟨front, matched ++ back, rfl, ?_⟩
    rw [List.isSome_head?]
    exact List.ne_nil_of_mem hmatch

/-- A match of the pattern begins behind some front of the text. -/
def MatchesAt (pattern : Pattern) (text front : Text) : Prop :=
  ∃ matched back, text = front ++ (matched ++ back) ∧
    pattern.Matches (lastOf none front) matched back

structure MatchesFirstAt (pattern : Pattern) (text front : Text) : Prop where
  matchesAt : pattern.MatchesAt text front
  first : ∀ earlier, pattern.MatchesAt text earlier → front.length ≤ earlier.length

private theorem matchesAt_iff {pattern : Pattern} {text front : Text} :
    pattern.MatchesAt text front ↔
    front <+: text ∧ pattern.ends ⟨lastOf none front, text.drop front.length⟩ ≠ [] := by
  constructor
  · rintro ⟨matched, back, rfl, hmatch⟩
    rw [List.drop_left]
    exact ⟨List.prefix_append .., List.ne_nil_of_mem hmatch⟩
  · rintro ⟨⟨rest, rfl⟩, hends⟩
    rw [List.drop_left] at hends
    obtain ⟨later, hlater⟩ := List.exists_mem_of_ne_nil _ hends
    obtain ⟨matched, rfl, -, hmatch⟩ := mem_ends_iff.mp hlater
    exact ⟨matched, later.rest, rfl, hmatch⟩

instance (pattern : Pattern) (text front : Text) : Decidable (pattern.MatchesAt text front) :=
  decidable_of_iff _ matchesAt_iff.symm

private theorem matchesFirstAt_iff {pattern : Pattern} {text front : Text} :
    pattern.MatchesFirstAt text front ↔ pattern.MatchesAt text front ∧
      ∀ n < front.length, ¬ pattern.MatchesAt text (text.take n) := by
  constructor
  · rintro ⟨hmatches, hfirst⟩
    refine ⟨hmatches, fun n hn hearlier => ?_⟩
    have hlength := hfirst _ hearlier
    rw [List.length_take] at hlength
    omega
  · rintro ⟨hmatches, hnone⟩
    refine ⟨hmatches, fun earlier hearlier => ?_⟩
    by_contra hlength
    refine hnone earlier.length (Nat.lt_of_not_le hlength) ?_
    rwa [← List.prefix_iff_eq_take.mp (matchesAt_iff.mp hearlier).1]

instance (pattern : Pattern) (text front : Text) : Decidable (pattern.MatchesFirstAt text front) :=
  decidable_of_iff _ matchesFirstAt_iff.symm

theorem MatchesFirstAt.unique {pattern : Pattern} {text front other : Text}
    (h : pattern.MatchesFirstAt text front) (hother : pattern.MatchesFirstAt text other) :
    front = other := by
  have hlength := Nat.le_antisymm (h.first _ hother.matchesAt) (hother.first _ h.matchesAt)
  have hfront := List.prefix_iff_eq_take.mp (matchesAt_iff.mp h.matchesAt).1
  have hother := List.prefix_iff_eq_take.mp (matchesAt_iff.mp hother.matchesAt).1
  rw [hfront, hother, hlength]

theorem occursIn_iff_exists_matchesAt {pattern : Pattern} {text : Text} :
    pattern.occursIn text = true ↔ ∃ front, pattern.MatchesAt text front :=
  occursIn_iff

theorem exists_matchesFirstAt {pattern : Pattern} {text : Text} (h : pattern.occursIn text = true) :
    ∃ front, pattern.MatchesFirstAt text front := by
  obtain ⟨later, hlater⟩ := Option.isSome_iff_exists.mp h
  obtain ⟨front, back, htext, hfound, hnone⟩ := findFrom_eq_some_iff.mp hlater
  obtain ⟨matched, hback, -, hmatch⟩ := mem_ends_iff.mp (List.mem_of_mem_head? hfound)
  refine ⟨front, ⟨matched, later.rest, by rw [htext, hback], hmatch⟩, ?_⟩
  rintro earlier ⟨matched', back', htext', hmatch'⟩
  by_contra hlength
  have hends := hnone earlier (matched' ++ back') htext' (Nat.lt_of_not_le hlength)
  exact List.ne_nil_of_mem hmatch' (List.head?_eq_none_iff.mp hends)

theorem exists_of_find?_eq_some {lead part : Pattern} {text found : Text}
    (h : find? lead part text = some found) : ∃ front led back,
      text = front ++ (led ++ (found ++ back)) ∧
        lead.Matches (lastOf none front) led (found ++ back) ∧
        part.Matches (lastOf none (front ++ led)) found back := by
  obtain ⟨front, rest, rfl, hpart, -⟩ := findFrom_eq_some_iff.mp h
  obtain ⟨⟨before, middle⟩, hmiddle, hfound⟩ := List.exists_of_findSome?_eq_some hpart
  obtain ⟨⟨before', back⟩, hlater, rfl⟩ := Option.map_eq_some_iff.mp hfound
  obtain ⟨led, hled, hbefore, hlead⟩ := mem_ends_iff.mp hmiddle
  obtain ⟨matched, hmatched, -, hmatch⟩ := mem_ends_iff.mp (List.mem_of_mem_head? hlater)
  dsimp only at hled hbefore hlead hmatched hmatch
  have hupTo : (Cursor.mk before middle).upTo ⟨before', back⟩ = matched := upTo_eq hmatched
  rw [hupTo]
  subst hled hbefore hmatched
  refine ⟨front, led, back, rfl, hlead, ?_⟩
  rwa [lastOf_append]

def asksFinish : Pattern → Bool
  | finish => true
  | seq first second => first.asksFinish || second.asksFinish
  | alt first second => first.asksFinish || second.asksFinish
  | _ => false

/-- A match depends on its surroundings only through whether there are word characters. -/
theorem Matches.of_context {pattern : Pattern} (hfinish : pattern.asksFinish = false)
    {before before' : Option CodePoint} {matched rest rest' : Text}
    (hbefore : before.any CodePoint.isWord = before'.any CodePoint.isWord)
    (hrest : rest.head?.any CodePoint.isWord = rest'.head?.any CodePoint.isWord)
    (h : pattern.Matches before matched rest) : pattern.Matches before' matched rest' := by
  induction pattern generalizing before before' matched rest rest' with
  | empty => exact matches_empty.mpr (matches_empty.mp h)
  | one accepts => exact matches_one.mpr (matches_one.mp h)
  | many accepts => exact matches_many.mpr (matches_many.mp h)
  | seq first second ihfirst ihsecond =>
    rw [asksFinish, Bool.or_eq_false_iff] at hfinish
    change (first ++ second).Matches _ _ _ at h
    change (first ++ second).Matches _ _ _
    obtain ⟨u, v, rfl, hu, hv⟩ := matches_append.mp h
    refine matches_append.mpr ⟨u, v, rfl, ihfirst hfinish.1 hbefore ?_ hu,
      ihsecond hfinish.2 ?_ hrest hv⟩
    · cases v <;> simp [hrest]
    · exact any_lastOf_congr u hbefore
  | alt first second ihfirst ihsecond =>
    rw [asksFinish, Bool.or_eq_false_iff] at hfinish
    exact matches_alt.mpr ((matches_alt.mp h).imp (ihfirst hfinish.1 hbefore hrest)
      (ihsecond hfinish.2 hbefore hrest))
  | boundary =>
    obtain ⟨rfl, hplace⟩ := matches_boundary.mp h
    refine matches_boundary.mpr ⟨rfl, ?_⟩
    rw [Cursor.atBoundary] at hplace ⊢
    rwa [← hbefore, ← hrest]
  | finish => simp [asksFinish] at hfinish

private theorem head?_reach (accepts : CodePoint → Bool) (before : Option CodePoint) (text : Text)
    (nearer : List Cursor) : (reach accepts before text nearer).head? =
      some ⟨lastOf before (text.takeWhile accepts), text.dropWhile accepts⟩ := by
  induction text generalizing before nearer with
  | nil => simp [reach]
  | cons c text ih =>
    rw [reach]
    split
    · next hc => rw [ih, List.takeWhile_cons_of_pos hc, List.dropWhile_cons_of_pos hc, lastOf_cons]
    · next hc => rw [List.takeWhile_cons_of_neg hc, List.dropWhile_cons_of_neg hc, lastOf_nil,
        List.head?_cons]

theorem head?_ends_one_append_many (first run : CodePoint → Bool) (before : Option CodePoint)
    (c : CodePoint) (text : Text) : ((one first ++ many run).ends ⟨before, c :: text⟩).head? =
      if first c then some ⟨lastOf (some c) (text.takeWhile run), text.dropWhile run⟩ else none := by
  change (((one first).ends ⟨before, c :: text⟩).flatMap (many run).ends).head? = _
  have hone : (one first).ends ⟨before, c :: text⟩ = if first c then [⟨some c, text⟩] else [] := rfl
  rw [hone]
  split
  · rw [List.flatMap_singleton, ends, head?_reach]
  · rfl

/-- What follows a lead that can only end in one place is looked for there. -/
theorem partAfter_eq {lead part : Pattern} {here middle : Cursor} (hmem : middle ∈ lead.ends here)
    (hunique : ∀ later ∈ lead.ends here, later = middle) :
    partAfter lead part here = (part.ends middle).head?.map middle.upTo := by
  rw [partAfter]
  cases hends : lead.ends here with
  | nil => simp [hends] at hmem
  | cons first others =>
    have hconst : ∀ later ∈ first :: others, later = middle := hends ▸ hunique
    rw [List.eq_replicate_of_mem hconst, List.length_cons, List.replicate_succ,
      List.findSome?_cons]
    cases hfound : (part.ends middle).head?.map middle.upTo with
    | some found => rfl
    | none =>
      rw [List.findSome?_eq_none_iff]
      intro later hlater
      rw [List.eq_of_mem_replicate hlater, hfound]

theorem partAfter_empty (part : Pattern) (here : Cursor) :
    partAfter empty part here = (part.ends here).head?.map here.upTo :=
  partAfter_eq (by simp [ends]) (by simp [ends])

theorem isSome_find?_empty (part : Pattern) (text : Text) :
    (find? empty part text).isSome = part.occursIn text := by
  rw [Bool.eq_iff_iff, find?, occursIn, isSome_findFrom_iff, isSome_findFrom_iff]
  simp only [partAfter_empty, Option.isSome_map]

theorem partAfter_many {lead : Pattern} {accepts : CodePoint → Bool} {here middle : Cursor}
    (hmem : middle ∈ lead.ends here) (hunique : ∀ later ∈ lead.ends here, later = middle) :
    partAfter lead (many accepts) here = some (middle.rest.takeWhile accepts) := by
  rw [partAfter_eq hmem hunique, ends, head?_reach, Option.map_some,
    upTo_eq List.takeWhile_append_dropWhile.symm]

theorem partAfter_atLeastOne {lead : Pattern} {accepts : CodePoint → Bool} {here middle : Cursor}
    (hmem : middle ∈ lead.ends here) (hunique : ∀ later ∈ lead.ends here, later = middle)
    (hstart : middle.rest.head?.any accepts = true) :
    partAfter lead (atLeastOne accepts) here = some (middle.rest.takeWhile accepts) := by
  obtain ⟨before, text⟩ := middle
  cases text with
  | nil => simp at hstart
  | cons c text =>
    have hc : accepts c = true := hstart
    rw [partAfter_eq hmem hunique, atLeastOne, ends, ends]
    simp only [hc, if_true, List.flatMap_cons, List.flatMap_nil, List.append_nil]
    rw [ends, head?_reach, Option.map_some, List.takeWhile_cons_of_pos hc]
    refine congrArg some (upTo_eq ?_)
    rw [List.cons_append, List.takeWhile_append_dropWhile]

end Pattern

end SnippetReview
