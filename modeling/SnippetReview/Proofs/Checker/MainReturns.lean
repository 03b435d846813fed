import SnippetReview.Proofs.Checker.C

/-!
What the rule that the entry point of a C program returns something looks at. It takes the body to end
at the next closing brace, whether or not this brace closes the body, so it overlooks what follows the
first inner block.
-/

set_option autoImplicit false

namespace SnippetReview

/-- The text from behind an opening bracket up to the bracket that closes it, or to the end if none
does; so many brackets have been opened inside and not closed yet. -/
def Bracket.inside (bracket : Bracket) : Nat → Text → Text
  | _, [] => []
  | depth, c :: rest =>
    if c = bracket.opening then c :: bracket.inside (depth + 1) rest
    else if c = bracket.closing then
      match depth with
      | 0 => []
      | depth + 1 => c :: bracket.inside depth rest
    else c :: bracket.inside depth rest

section Inside

variable (bracket : Bracket)

private theorem Bracket.takeWhile_inside (depth : Nat) (rest : Text) :
    (bracket.inside depth rest).takeWhile (· ≠ bracket.closing) =
      rest.takeWhile (· ≠ bracket.closing) := by
  induction rest generalizing depth with
  | nil => rfl
  | cons c rest ih =>
    rw [inside.eq_def]
    dsimp only
    by_cases hopening : c = bracket.opening
    · rw [if_pos hopening, List.takeWhile_cons, List.takeWhile_cons, ih]
    · rw [if_neg hopening]
      by_cases hclosing : c = bracket.closing
      · cases depth with
        | zero => simp [hclosing]
        | succ depth => simp [hclosing]
      · rw [if_neg hclosing, List.takeWhile_cons, List.takeWhile_cons, ih]

private theorem Bracket.closing_not_mem_inside (rest : Text)
    (h : bracket.opening ∉ bracket.inside 0 rest) :
    bracket.closing ∉ bracket.inside 0 rest := by
  induction rest with
  | nil => exact List.not_mem_nil
  | cons c rest ih =>
    rw [inside] at h ⊢
    by_cases hopening : c = bracket.opening
    · simp [hopening] at h
    · rw [if_neg hopening] at h ⊢
      by_cases hclosing : c = bracket.closing
      · rw [if_pos hclosing]
        exact List.not_mem_nil
      · rw [if_neg hclosing, List.mem_cons, not_or] at h
        rw [if_neg hclosing, List.mem_cons, not_or]
        exact ⟨fun hsame => hclosing hsame.symm, ih h.2⟩

end Inside

namespace C

open Cursor Pattern

/-- The rest follows the opening brace of the leftmost head of an entry point. -/
def FirstHead (source rest : Text) : Prop :=
  ∃ front text, source = front ++ text ∧ ReadsHead text rest ∧
    ∀ earlier later, source = earlier ++ later → earlier.length < front.length →
      ∀ other, ¬ ReadsHead later other

private theorem partAfter_mainHead_eq_some_iff {accepts : CodePoint → Bool}
    {before : Option CodePoint}
    {text body : Text} : partAfter mainHead (.many accepts) ⟨before, text⟩ = some body ↔
      ∃ rest, ReadsHead text rest ∧ body = rest.takeWhile accepts := by
  constructor
  · intro hbody
    by_cases hhead : ∃ rest, ReadsHead text rest
    · obtain ⟨rest, hrest⟩ := hhead
      rw [partAfter_of_readsHead hrest, Option.some.injEq] at hbody
      exact ⟨rest, hrest, hbody.symm⟩
    · rw [partAfter_of_not_readsHead (not_exists.mp hhead)] at hbody
      cases hbody
  · rintro ⟨rest, hrest, rfl⟩
    exact partAfter_of_readsHead hrest before

private theorem partAfter_mainHead_eq_none_iff {accepts : CodePoint → Bool}
    {before : Option CodePoint}
    {text : Text} : partAfter mainHead (.many accepts) ⟨before, text⟩ = none ↔
      ∀ rest, ¬ ReadsHead text rest := by
  constructor
  · intro hnone rest hrest
    rw [partAfter_of_readsHead hrest] at hnone
    cases hnone
  · intro hhead
    exact partAfter_of_not_readsHead hhead before

private theorem mainBody?_eq_some_iff {source body : Text} : mainBody? source = some body ↔
    ∃ rest, FirstHead source rest ∧ body = rest.takeWhile (· ≠ Bracket.braces.closing) := by
  rw [mainBody?, Pattern.find?, findFrom_eq_some_iff]
  simp only [partAfter_mainHead_eq_some_iff, partAfter_mainHead_eq_none_iff]
  constructor
  · rintro ⟨front, text, hsplit, ⟨rest, hhead, hbody⟩, hfirst⟩
    exact ⟨rest, ⟨front, text, hsplit, hhead, hfirst⟩, hbody⟩
  · rintro ⟨rest, ⟨front, text, hsplit, hhead, hfirst⟩, hbody⟩
    exact ⟨front, text, hsplit, ⟨rest, hhead, hbody⟩, hfirst⟩

private theorem fires_mainReturnsRule_of_firstHead {source rest : Text}
    (h : FirstHead source rest) :
    mainReturnsRule.fires source = true ↔
      ¬ Text.ofString "return" <:+: rest.takeWhile (· ≠ Bracket.braces.closing) := by
  have hbody := mainBody?_eq_some_iff.mpr ⟨rest, h, rfl⟩
  rw [← Text.occursIn_iff_isInfix]
  simp [mainReturnsRule, hbody]

private theorem exists_firstHead_of_fires {source : Text}
    (h : mainReturnsRule.fires source = true) :
    ∃ rest, FirstHead source rest := by
  cases hbody : mainBody? source with
  | none => simp [mainReturnsRule, hbody] at h
  | some body =>
    obtain ⟨rest, hhead, -⟩ := mainBody?_eq_some_iff.mp hbody
    exact ⟨rest, hhead⟩

/-- The rule that the entry point returns something fires if nothing returns in the part of its body
before the first closing brace. So it fires whenever nothing returns in the body, but only where the
body has no inner block does it fire just then. -/
theorem fires_mainReturnsRule_iff (source : Text) :
    (mainReturnsRule.fires source = true → ∃ rest, FirstHead source rest) ∧
    ∀ rest, FirstHead source rest →
      (mainReturnsRule.fires source = true ↔ ¬ Text.ofString "return" <:+:
        (Bracket.braces.inside 0 rest).takeWhile (· ≠ Bracket.braces.closing)) ∧
      (¬ Text.ofString "return" <:+: Bracket.braces.inside 0 rest →
        mainReturnsRule.fires source = true) ∧
      (Bracket.braces.opening ∉ Bracket.braces.inside 0 rest →
        (mainReturnsRule.fires source = true ↔
          ¬ Text.ofString "return" <:+: Bracket.braces.inside 0 rest)) := by
  refine ⟨exists_firstHead_of_fires, ?_⟩
  intro rest hhead
  have hfires := fires_mainReturnsRule_of_firstHead hhead
  rw [← Bracket.takeWhile_inside Bracket.braces 0 rest] at hfires
  refine ⟨hfires, ?_, ?_⟩
  · intro hnone
    rw [hfires]
    intro hreturn
    exact hnone (hreturn.trans (List.takeWhile_prefix _).isInfix)
  · intro hflat
    have hclosing := Bracket.closing_not_mem_inside Bracket.braces rest hflat
    have hwhole : (Bracket.braces.inside 0 rest).takeWhile (· ≠ Bracket.braces.closing) =
        Bracket.braces.inside 0 rest := by
      rw [List.takeWhile_eq_self_iff]
      intro c hc
      rw [decide_eq_true_eq]
      rintro rfl
      exact hclosing hc
    rw [hfires, hwhole]

/-- A program that returns after an inner block is reported as one that does not return. -/
theorem fires_mainReturnsRule_iff_of_inner_block :
    let rest : Text := Text.ofString "\n  if (x) \x7b\n    f();\n  \x7d\n  return 0;\n\x7d"
    let source : Text := Text.ofString "int main() \x7b" ++ rest
    mainReturnsRule.fires source = true ∧ FirstHead source rest ∧
      Text.ofString "return" <:+: Bracket.braces.inside 0 rest := by
  intro rest source
  have hhead : FirstHead source rest := by
    refine ⟨[], source, rfl, ?_, fun _ _ _ hlength => absurd hlength (Nat.not_lt_zero _)⟩
    exact ⟨Text.ofString " main() \x7b" ++ rest, by decide,
      Text.ofString " ", Text.ofString "() \x7b" ++ rest, by decide, by decide, by decide,
      [], Text.ofString ") \x7b" ++ rest, by decide, by decide, by decide,
      [], Text.ofString " \x7b" ++ rest, by decide, by decide, by decide,
      Text.ofString " ", rest, by decide, by decide, by decide, rfl⟩
  have hreturn : Text.ofString "return" <:+: Bracket.braces.inside 0 rest := by
    rw [← Text.occursIn_iff_isInfix]
    decide +kernel
  have hfirst : ¬ Text.ofString "return" <:+:
      (Bracket.braces.inside 0 rest).takeWhile (· ≠ Bracket.braces.closing) := by
    rw [← Text.occursIn_iff_isInfix]
    decide +kernel
  exact ⟨((fires_mainReturnsRule_iff source).2 rest hhead).1.mpr hfirst, hhead, hreturn⟩

end C

end SnippetReview
