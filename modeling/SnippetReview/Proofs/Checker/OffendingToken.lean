import SnippetReview.Checker.JavaScript
import SnippetReview.Proofs.Text.Padding

/-!
The token that a problem of a script is described by. The search for the first token of a text prefers
a name to a run of digits and that to a single code point, and each goes on as far as it can.
-/

set_option autoImplicit false

namespace SnippetReview.JavaScript

open Cursor Pattern

def startsName (c : CodePoint) : Bool :=
  c.isAsciiLetter || c = '_' || c = '$'

def continuesName (c : CodePoint) : Bool :=
  c.isWord || c = '$'

/-- A token and the text behind it: a name or a run of digits that goes on as far as it can, or else a
single visible code point. -/
inductive ReadsToken : Text → Text → Prop where
  | name {c : CodePoint} {more rest : Text} (hfirst : startsName c = true)
      (hmore : ∀ d ∈ more, continuesName d = true)
      (hrest : rest.head?.any continuesName = false) : ReadsToken (c :: more) rest
  | number {c : CodePoint} {more rest : Text} (hdigits : ∀ d ∈ c :: more, d.isDigit = true)
      (hrest : rest.head?.any CodePoint.isDigit = false) : ReadsToken (c :: more) rest
  | sign {c : CodePoint} {rest : Text} (hvisible : c.isBlank = false)
      (hname : startsName c = false) (hdigit : c.isDigit = false) : ReadsToken [c] rest

def IsFirstToken (text token : Text) : Prop :=
  ∃ gap rest, text = gap ++ (token ++ rest) ∧ (∀ c ∈ gap, c.isBlank = true) ∧
    ReadsToken token rest

/-- The offending token of a problem: the first token from the place on where something is missing, or
else the trimmed text of the first leaf. -/
def IsOffending (bytes : Bytes) (problem : SyntaxTree) (token : Text) : Prop :=
  if problem.isMissing then
    IsFirstToken (Utf8.decodeReplacing (bytes.drop problem.span.start)) token
  else token = leafText bytes problem.firstLeaf.span

variable {text token rest : Text}

private theorem isBlank_eq_false_of_startsName {c : CodePoint} (h : startsName c = true) :
    c.isBlank = false := by
  rw [Bool.eq_false_iff]
  intro hblank
  have hnone : startsName c = false :=
    CodePoint.of_isBlank (p := fun c => startsName c = false) (by decide) hblank
  rw [hnone] at h
  cases h

private theorem isBlank_eq_false_of_continuesName {c : CodePoint} (h : continuesName c = true) :
    c.isBlank = false := by
  rw [continuesName, Bool.or_eq_true, decide_eq_true_eq] at h
  obtain hword | rfl := h
  · exact CodePoint.isBlank_eq_false_of_isWord hword
  · decide

theorem ReadsToken.isVisible (h : ReadsToken token rest) : token.IsVisible := by
  cases h with
  | @name c more _ hfirst hmore =>
    refine ⟨List.cons_ne_nil c more, List.forall_mem_cons.mpr ⟨?_, fun d hd => ?_⟩⟩
    · exact isBlank_eq_false_of_startsName hfirst
    · exact isBlank_eq_false_of_continuesName (hmore d hd)
  | @number c more _ hdigits =>
    exact ⟨List.cons_ne_nil c more,
      fun d hd => CodePoint.isBlank_eq_false_of_isDigit (hdigits d hd)⟩
  | @sign c _ hvisible => exact ⟨List.cons_ne_nil c [], by simpa using hvisible⟩

theorem IsFirstToken.isVisible (h : IsFirstToken text token) : token.IsVisible := by
  obtain ⟨_, _, -, -, htoken⟩ := h
  exact htoken.isVisible

private theorem readsToken_of_head? {before : Option CodePoint} {later : Cursor}
    (h : (tokenPattern.ends ⟨before, text⟩).head? = some later) :
    ∃ token, text = token ++ later.rest ∧ ReadsToken token later.rest := by
  cases text with
  | nil =>
    have hnone : tokenPattern.ends ⟨before, []⟩ = [] := rfl
    rw [hnone] at h
    cases h
  | cons c text =>
    change ((one startsName ++ many continuesName).ends _ ++
      ((one CodePoint.isDigit ++ many CodePoint.isDigit).ends _ ++ (one (!·.isBlank)).ends _)
      ).head? = _ at h
    rw [List.head?_append, List.head?_append, head?_ends_one_append_many,
      head?_ends_one_append_many] at h
    cases hname : startsName c with
    | true =>
      rw [hname, if_pos rfl, Option.some_or, Option.some.injEq] at h
      subst h
      refine ⟨c :: text.takeWhile continuesName, ?_, .name hname ?_ (any_head_dropWhile text)⟩
      · rw [List.cons_append, List.takeWhile_append_dropWhile]
      · exact fun d hd => List.mem_takeWhile_imp hd
    | false =>
      rw [hname, if_neg Bool.false_ne_true, Option.none_or] at h
      cases hdigit : c.isDigit with
      | true =>
        rw [hdigit, if_pos rfl, Option.some_or, Option.some.injEq] at h
        subst h
        refine ⟨c :: text.takeWhile CodePoint.isDigit, ?_, .number ?_ (any_head_dropWhile text)⟩
        · rw [List.cons_append, List.takeWhile_append_dropWhile]
        · exact List.forall_mem_cons.mpr ⟨hdigit, fun d hd => List.mem_takeWhile_imp hd⟩
      | false =>
        rw [hdigit, if_neg Bool.false_ne_true, Option.none_or] at h
        obtain ⟨matched, htext, -, hmatch⟩ := mem_ends_iff.mp (List.mem_of_mem_head? h)
        obtain ⟨d, rfl, hvisible⟩ := matches_one.mp hmatch
        rw [List.singleton_append, List.cons.injEq] at htext
        obtain ⟨rfl, rfl⟩ := htext
        exact ⟨[c], rfl, .sign (by simpa using hvisible) hname hdigit⟩

private theorem matches_token_of_visible {c : CodePoint} (hvisible : c.isBlank = false)
    (before : Option CodePoint) (rest : Text) : tokenPattern.Matches before [c] rest :=
  matches_alt.mpr (Or.inr (matches_alt.mpr (Or.inr
    (matches_one.mpr ⟨c, rfl, by simpa using hvisible⟩))))

theorem isFirstToken_of_find? (h : Pattern.find? .empty tokenPattern text = some token) :
    IsFirstToken text token := by
  obtain ⟨gap, back, rfl, hpart, hfirst⟩ := findFrom_eq_some_iff.mp h
  rw [partAfter_empty] at hpart
  obtain ⟨later, hlater, rfl⟩ := Option.map_eq_some_iff.mp hpart
  obtain ⟨token, rfl, htoken⟩ := readsToken_of_head? hlater
  rw [upTo_eq rfl]
  refine ⟨gap, later.rest, rfl, ?_, htoken⟩
  intro c hc
  by_contra hvisible
  rw [Bool.not_eq_true] at hvisible
  obtain ⟨left, right, rfl⟩ := List.append_of_mem hc
  have hmatch := matches_token_of_visible hvisible (lastOf none left)
    (right ++ (token ++ later.rest))
  have hnone := hfirst left (c :: (right ++ (token ++ later.rest))) (by simp) (by simp)
  rw [partAfter_empty, Option.map_eq_none_iff, List.head?_eq_none_iff] at hnone
  exact List.ne_nil_of_mem hmatch hnone

theorem find?_token_eq_none_iff :
    Pattern.find? .empty tokenPattern text = none ↔ text.isBlank = true := by
  rw [Text.isBlank, List.all_eq_true]
  constructor
  · intro hnone c hc
    by_contra hvisible
    rw [Bool.not_eq_true] at hvisible
    obtain ⟨front, back, rfl⟩ := List.append_of_mem hc
    rw [← Option.not_isSome_iff_eq_none, isSome_find?_empty, occursIn_iff] at hnone
    exact hnone ⟨front, [c], back, rfl, matches_token_of_visible hvisible _ _⟩
  · intro hblank
    rw [Option.eq_none_iff_forall_ne_some]
    intro token hfind
    obtain ⟨gap, rest, rfl, -, htoken⟩ := isFirstToken_of_find? hfind
    obtain ⟨hne, hvisible⟩ := htoken.isVisible
    obtain ⟨c, hc⟩ := List.exists_mem_of_ne_nil token hne
    have hclash := hvisible c hc
    rw [hblank c (by simp [hc])] at hclash
    cases hclash

/-- What is said about a problem is about its token, which begins visibly, or that nothing follows. -/
theorem describe_cases (bytes : Bytes) (problem : SyntaxTree) :
    describe bytes problem = endMessage ∨ ∃ token, describe bytes problem = tokenMessage token ∧
      IsOffending bytes problem token ∧ ∃ c, token.head? = some c ∧ c.isBlank = false := by
  rw [describe]
  simp only [IsOffending]
  split
  · cases htoken : firstToken? (bytes.drop problem.span.start) with
    | none => exact Or.inl rfl
    | some token =>
      have hfirst := isFirstToken_of_find? htoken
      exact Or.inr ⟨token, rfl, hfirst, hfirst.isVisible.exists_head⟩
  · cases htext : leafText bytes problem.firstLeaf.span with
    | nil => exact Or.inl rfl
    | cons c text =>
      exact Or.inr ⟨c :: text, rfl, rfl, c, rfl,
        Text.isBlank_head_trim (congrArg List.head? htext)⟩

end SnippetReview.JavaScript
