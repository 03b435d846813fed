import SnippetReview.Evaluate
import SnippetReview.Proofs.Text.Blank
import SnippetReview.Proofs.Text.Utf8

/-!
The evaluation of a submission: that blank code and code in languages that are read as text always
get a verdict, and which scripts do not. A search that may take only so many calls of itself gives
the same verdict or none.
-/

set_option autoImplicit false

namespace SnippetReview

private theorem Text.isEncodable_of_isBlank {text : Text} (h : text.isBlank = true) :
    text.IsEncodable := by
  intro c hc
  have hblank : c.isBlank = true := List.all_eq_true.mp h c hc
  exact CodePoint.of_isBlank (p := fun c => c.isSurrogate = false) (by decide) hblank

private theorem JavaScript.exists_check_eq_error_iff {parse : Text → SyntaxTree} {source : Text} :
    (∃ run, check parse source = .error run) ↔
      ¬ source.IsEncodable ∧ source.trim.endsWithAny partialEndings = false := by
  unfold check
  split
  · next hpartial => simp [hpartial]
  · next hwhole =>
    rw [← Utf8.exists_encode_eq_error_iff]
    cases Utf8.encode source with
    | error run => simp [Except.map, hwhole]
    | ok bytes => simp [Except.map]

namespace Evaluate

variable {parse : Text → SyntaxTree} {source : Text} {hint : Option Text} {verdict : Verdict}

private theorem exists_errors_eq_error_iff {language : Language} :
    (∃ run, errors parse language source = .error run) ↔ language = .javascript ∧
      ¬ source.IsEncodable ∧ source.trim.endsWithAny JavaScript.partialEndings = false := by
  cases language with
  | javascript =>
    rw [errors, JavaScript.exists_check_eq_error_iff]
    simp
  | python | c | java | other => simp [errors]

theorem evaluate_of_isBlank (h : source.isBlank = true) :
    evaluate parse (some source) hint = .ok emptyVerdict := by
  unfold evaluate
  exact if_pos h

theorem evaluate_of_not_isBlank (h : source.isBlank = false) :
    evaluate parse (some source) hint =
      (errors parse (Language.resolve hint) source).map
        (Evaluate.verdict (Language.resolve hint) source) := by
  unfold evaluate
  exact if_neg (by simp [h])

/-- The one way for code to get no verdict: a script in which surrogates stand, and which does not
look half-written. -/
theorem exists_evaluate_eq_error_iff :
    (∃ run, evaluate parse (some source) hint = .error run) ↔
      ¬ source.IsEncodable ∧ Language.resolve hint = .javascript ∧
        source.trim.endsWithAny JavaScript.partialEndings = false := by
  cases hblank : source.isBlank with
  | true =>
    rw [evaluate_of_isBlank hblank]
    have hencodable := Text.isEncodable_of_isBlank hblank
    simp [hencodable]
  | false =>
    have herrors := @exists_errors_eq_error_iff parse source (Language.resolve hint)
    rw [and_left_comm, ← herrors, evaluate_of_not_isBlank hblank]
    cases errors parse (Language.resolve hint) source with
    | error run => simp [Except.map]
    | ok found => simp [Except.map]

private theorem eq_of_evaluate (h : evaluate parse (some source) hint = .ok verdict) :
    verdict = emptyVerdict ∨
      ∃ found, verdict = Evaluate.verdict (Language.resolve hint) source found := by
  cases hblank : source.isBlank with
  | true =>
    rw [evaluate_of_isBlank hblank, Except.ok.injEq] at h
    exact Or.inl h.symm
  | false =>
    rw [evaluate_of_not_isBlank hblank] at h
    cases herrors : errors parse (Language.resolve hint) source with
    | error run => simp [herrors, Except.map] at h
    | ok found =>
      simp only [herrors, Except.map, Except.ok.injEq] at h
      exact Or.inr ⟨found, h.symm⟩

theorem isValid_eq_of_evaluate (h : evaluate parse (some source) hint = .ok verdict) :
    verdict.isValid = verdict.errors.isEmpty := by
  rcases eq_of_evaluate h with rfl | ⟨found, rfl⟩
  · rfl
  · rfl

theorem exists_language_of_evaluate (h : evaluate parse (some source) hint = .ok verdict) :
    ∃ language : Language, verdict.language = language.name := by
  rcases eq_of_evaluate h with rfl | ⟨found, rfl⟩
  · exact ⟨.other, rfl⟩
  · exact ⟨Language.resolve hint, rfl⟩

variable {calls : Nat}

theorem evaluateWithin_eq_ok_iff : evaluateWithin calls parse (some source) hint = .ok verdict ↔
    evaluate parse (some source) hint = .ok verdict ∧
      searchDepth parse (some source) hint ≤ calls := by
  unfold evaluateWithin
  split
  · next hdeep => simp [hdeep]
  · next hshallow =>
    cases evaluate parse (some source) hint with
    | error run => simp [Except.mapError]
    | ok found => simp [Except.mapError, Nat.le_of_not_lt hshallow]

theorem exists_evaluateWithin_eq_error_iff :
    (∃ failure, evaluateWithin calls parse (some source) hint = .error failure) ↔
      (∃ run, evaluate parse (some source) hint = .error run) ∨
        calls < searchDepth parse (some source) hint := by
  unfold evaluateWithin
  split
  · next hdeep => simp [hdeep]
  · next hshallow =>
    cases evaluate parse (some source) hint with
    | error run => simp [Except.mapError]
    | ok found => simp [Except.mapError, hshallow]

private theorem searchDepth_of_isBlank (h : source.isBlank = true) :
    searchDepth parse (some source) hint = 0 := by
  unfold searchDepth
  exact if_neg (by simp [h])

theorem evaluateWithin_of_isBlank (h : source.isBlank = true) :
    evaluateWithin calls parse (some source) hint = .ok emptyVerdict := by
  rw [evaluateWithin_eq_ok_iff, searchDepth_of_isBlank h]
  exact ⟨evaluate_of_isBlank h, Nat.zero_le _⟩

end Evaluate

end SnippetReview
