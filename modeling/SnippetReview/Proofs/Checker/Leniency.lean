import Mathlib.Data.List.Infix
import SnippetReview.Proofs.Checker.JavaScript
import SnippetReview.Proofs.Evaluate

/-!
When the JavaScript checker lets an error pass. It means to do so where nothing follows the error, but
it looks for the words of that message in the whole message about the error, into which the text of
the offending token has been put. A token of visible characters cannot bring those words along; the
text of a leaf, such as a comment, can.
-/

set_option autoImplicit false

namespace SnippetReview.JavaScript

/-- Only blanks follow a problem: from the place on where something is missing, or else in its first
leaf. -/
def NothingFollows (bytes : Bytes) (problem : SyntaxTree) : Prop :=
  if problem.isMissing then
    (Utf8.decodeReplacing (bytes.drop problem.span.start)).isBlank = true
  else
    (Utf8.decodeReplacing
      (slice bytes problem.firstLeaf.span.start problem.firstLeaf.span.stop)).isBlank = true

instance (bytes : Bytes) (problem : SyntaxTree) : Decidable (NothingFollows bytes problem) :=
  inferInstanceAs (Decidable (ite _ _ _))

/-- The first leaf of a problem holds the words for the end of the input itself. -/
def QuotesMarker (bytes : Bytes) (problem : SyntaxTree) : Prop :=
  problem.isMissing = false ∧ endMarker <:+: leafText bytes problem.firstLeaf.span

/-- The words for the end of the input stand in a message about a token only if they stand in the
token. -/
private theorem endMarker_isInfix_tokenMessage_iff {token : Text} :
    endMarker <:+: tokenMessage token ↔ endMarker <:+: token := by
  have hbefore : ¬ endMarker <:+: Text.ofString "SyntaxError: Unexpected token " := by
    rw [← Text.occursIn_iff_isInfix]
    decide
  have hacross : ∀ front ∈ endMarker.inits,
      front <:+ Text.ofString "SyntaxError: Unexpected token " → front = [] := by
    decide +kernel
  rw [tokenMessage, List.infix_append_iff]
  constructor
  · rintro (hoccurs | hoccurs | ⟨front, back, hsplit, hsuffix, hprefix⟩)
    · exact absurd hoccurs hbefore
    · exact hoccurs
    · have hinits : front ∈ endMarker.inits := by
        rw [List.mem_inits, hsplit]
        exact List.prefix_append ..
      rw [hacross front hinits hsuffix, List.nil_append] at hsplit
      rw [hsplit]
      exact hprefix.isInfix
  · intro hoccurs
    exact Or.inr (Or.inl hoccurs)

section Describe

variable {bytes : Bytes} {problem : SyntaxTree}

theorem endMarker_occursIn_describe_iff : endMarker.occursIn (describe bytes problem) = true ↔
    NothingFollows bytes problem ∨ QuotesMarker bytes problem := by
  have hend : endMarker.occursIn endMessage = true := by
    decide
  rw [describe, NothingFollows, QuotesMarker]
  cases hmissing : problem.isMissing with
  | true =>
    rw [if_pos rfl, if_pos rfl, ← find?_token_eq_none_iff, firstToken?]
    simp only [Bool.true_eq_false, false_and, or_false]
    cases htoken : Pattern.find? .empty tokenPattern
        (Utf8.decodeReplacing (bytes.drop problem.span.start)) with
    | none => simp only [hend]
    | some token =>
      have hvisible := (isFirstToken_of_find? htoken).isVisible.2
      have hblank : CodePoint.ofChar ' ' ∈ endMarker := by
        decide
      simp only [reduceCtorEq, iff_false]
      rw [Text.occursIn_iff_isInfix, endMarker_isInfix_tokenMessage_iff]
      intro hoccurs
      have hspace := hvisible _ (hoccurs.subset hblank)
      revert hspace
      decide
  | false =>
    rw [if_neg Bool.false_ne_true, if_neg Bool.false_ne_true, ← Text.trim_eq_nil_iff, ← leafText]
    simp only [true_and]
    cases htext : leafText bytes problem.firstLeaf.span with
    | nil => simp only [hend, true_or]
    | cons c text =>
      rw [Text.occursIn_iff_isInfix, endMarker_isInfix_tokenMessage_iff]
      simp only [reduceCtorEq, false_or]

private theorem report_of_hasError {tree : SyntaxTree} (herror : tree.hasError = true) :
    (report bytes tree = [] ↔
      NothingFollows bytes tree.firstProblem ∨ QuotesMarker bytes tree.firstProblem) ∧
    (report bytes tree = [] ∨ ∃ d, report bytes tree = [d]) := by
  rw [← endMarker_occursIn_describe_iff]
  simp only [report, herror, if_true]
  cases endMarker.occursIn (describe bytes tree.firstProblem) with
  | true => simp
  | false => simp

end Describe

/-- Of the errors in a snippet that does not look half-written, the checker hides those behind which
nothing follows, and also those at a leaf in which the words for the end of the input stand. Any other
error is reported, whatever the token. -/
theorem check_eq_nil_iff_of_hasError (parse : Text → SyntaxTree) {source : Text}
    (hsource : source.IsEncodable) (hending : source.trim.endsWithAny partialEndings = false)
    (herror : (parse source).hasError = true) :
    (check parse source = .ok [] ↔
      NothingFollows (source.flatMap CodePoint.utf8) (parse source).firstProblem ∨
        QuotesMarker (source.flatMap CodePoint.utf8) (parse source).firstProblem) ∧
    (check parse source = .ok [] ∨ ∃ d, check parse source = .ok [d]) := by
  have hcheck : check parse source =
      .ok (report (source.flatMap CodePoint.utf8) (parse source)) := by
    rw [check, if_neg (by simp [hending]), Utf8.encode_eq_ok hsource]
    rfl
  rw [hcheck]
  simp only [Except.ok.injEq]
  exact report_of_hasError herror

/-- A comment that quotes the message hides the error that the whole snippet is. -/
theorem check_eq_nil_iff_of_hasError_of_quoting_comment :
    let source : Text := Text.ofString "// Unexpected end of block\nwhile (x ] else y"
    let tree : SyntaxTree := .node ⟨0, 44, 0, 0⟩ false true
      [.node ⟨0, 26, 0, 0⟩ false false [], .node ⟨27, 32, 1, 0⟩ false false [],
        .node ⟨33, 34, 1, 6⟩ false false [], .node ⟨34, 35, 1, 7⟩ false false [],
        .node ⟨36, 37, 1, 9⟩ false false [], .node ⟨38, 42, 1, 11⟩ false false [],
        .node ⟨43, 44, 1, 16⟩ false false []]
    check (fun _ => tree) source = .ok [] ∧
      ¬ NothingFollows (source.flatMap CodePoint.utf8) tree.firstProblem := by
  intro source tree
  have hquotes : QuotesMarker (source.flatMap CodePoint.utf8) tree.firstProblem := by
    refine ⟨rfl, ?_⟩
    rw [← Text.occursIn_iff_isInfix]
    decide +kernel
  have hsource : source.IsEncodable := by
    decide +kernel
  have hending : source.trim.endsWithAny partialEndings = false := by
    decide +kernel
  have hchecked := check_eq_nil_iff_of_hasError (fun _ => tree) hsource hending rfl
  exact ⟨hchecked.1.mpr (Or.inr hquotes), by decide +kernel⟩

end SnippetReview.JavaScript
