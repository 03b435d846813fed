import SnippetReview.Proofs.Checker.Leniency

/-!
What a JavaScript diagnostic says. The offending token is formatted into a message, which is then
searched for its detail. Main statement: whatever the source and the tree, the search gives back the
words that were put in, up to the end of the line, so that every diagnostic is of one form.
-/

set_option autoImplicit false

namespace SnippetReview.JavaScript

/-- A diagnostic reports the token of a problem: its message says the first line of the token, which
is not empty, and is the detail of the message that was made about the problem. -/
structure Reports (bytes : Bytes) (problem : SyntaxTree) (token : Text) (d : Diagnostic) : Prop where
  offending : IsOffending bytes problem token
  visible : token.takeWhile CodePoint.inLine ≠ []
  message : d.message =
    Text.ofString "Unexpected token " ++ token.takeWhile CodePoint.inLine
  oneLine : CodePoint.ofChar '\n' ∉ d.message
  detail : detail? (describe bytes problem) = some d.message
  severity : d.severity = Diagnostic.error
  line : d.line = some ((anchor problem).span.row + 1)
  column : d.column = some (column bytes (anchor problem).span)
  hint : d.hint = some "Check brackets, parentheses, and quotes balance."

/-- Why a snippet is let pass: it looks half-written, nothing is wrong with it, or the words for the
end of the input are found in what would be said about it. -/
inductive LetsPass (parse : Text → SyntaxTree) (source : Text) : Prop where
  | halfWritten (h : source.trim.endsWithAny partialEndings = true)
  | correct (h : (parse source).hasError = false)
  | ended (h : NothingFollows (source.flatMap CodePoint.utf8) (parse source).firstProblem)
  | quoted (h : QuotesMarker (source.flatMap CodePoint.utf8) (parse source).firstProblem)

section Report

variable {bytes : Bytes} {problem : SyntaxTree} {token : Text}

private theorem hint_unexpected (detail : Text) :
    hint (Text.ofString "Unexpected token " ++ detail) =
      "Check brackets, parentheses, and quotes balance." := by
  have hoccurs : Text.occursIn "Unexpected token" (Text.ofString "Unexpected token " ++ detail) := by
    rw [Text.occursIn_iff_isInfix]
    refine List.IsInfix.trans ?_ (List.prefix_append _ detail).isInfix
    rw [← Text.occursIn_iff_isInfix]
    decide
  simp only [hint, hints, List.find?_cons, hoccurs]

private theorem reports_diagnosticOf (hdescribe : describe bytes problem = tokenMessage token)
    (htoken : IsOffending bytes problem token)
    (hhead : ∃ c, token.head? = some c ∧ c.isBlank = false) :
    Reports bytes problem token (diagnosticOf (describe bytes problem)
      (some ((anchor problem).span.row + 1)) (some (column bytes (anchor problem).span))) := by
  obtain ⟨c, hc, hvisible⟩ := hhead
  have hline : CodePoint.ofChar '\n' ∉ token.takeWhile CodePoint.inLine := fun hmem =>
    absurd (List.mem_takeWhile_imp hmem) (by decide)
  have hdetail := detail?_tokenMessage token
  rw [← hdescribe] at hdetail
  simp only [diagnosticOf, hdetail]
  exact {
    offending := htoken
    visible := by
      intro hnil
      have hfirst := head?_takeWhile_inLine hc hvisible
      rw [hnil] at hfirst
      cases hfirst
    message := rfl
    oneLine := by
      rw [List.mem_append, not_or]
      exact ⟨by decide, hline⟩
    detail := hdetail
    severity := rfl
    line := rfl
    column := rfl
    hint := congrArg some (hint_unexpected _) }

theorem report_cases (tree : SyntaxTree) :
    (report bytes tree = [] ∧ (tree.hasError = false ∨ NothingFollows bytes tree.firstProblem ∨
      QuotesMarker bytes tree.firstProblem)) ∨
    ∃ d token, report bytes tree = [d] ∧ Reports bytes tree.firstProblem token d := by
  cases herror : tree.hasError with
  | false => exact Or.inl ⟨by simp [report, herror], Or.inl rfl⟩
  | true =>
    cases hmarker : endMarker.occursIn (describe bytes tree.firstProblem) with
    | true =>
      refine Or.inl ⟨by simp [report, herror, hmarker], Or.inr ?_⟩
      exact endMarker_occursIn_describe_iff.mp hmarker
    | false =>
      obtain hend | ⟨token, hdescribe, htoken, hhead⟩ := describe_cases bytes tree.firstProblem
      · rw [hend] at hmarker
        exact absurd hmarker (by decide)
      · have hreports := reports_diagnosticOf hdescribe htoken hhead
        refine Or.inr ⟨_, token, ?_, hreports⟩
        simp only [report, herror, if_true, hmarker, Bool.false_eq_true, if_false]

end Report

/-- A snippet of characters is let pass or gets one diagnostic, whatever tree the parser returns. The
diagnostic names the offending token, up to the end of the line, and is of the form for that: it says
nothing else, and always gives the same advice. -/
theorem check_reports_token_line (parse : Text → SyntaxTree) {source : Text}
    (hsource : source.IsEncodable) :
    (check parse source = .ok [] ∧ LetsPass parse source) ∨
      ∃ d token, check parse source = .ok [d] ∧
        Reports (source.flatMap CodePoint.utf8) (parse source).firstProblem token d := by
  by_cases hending : source.trim.endsWithAny partialEndings = true
  · exact Or.inl ⟨by rw [check, if_pos hending], .halfWritten hending⟩
  · have hcheck : check parse source =
        .ok (report (source.flatMap CodePoint.utf8) (parse source)) := by
      rw [check, if_neg hending, Utf8.encode_eq_ok hsource]
      rfl
    rw [hcheck]
    obtain ⟨hnil, hreason⟩ | ⟨d, token, hreport, hreports⟩ := report_cases (parse source)
    · rw [hnil]
      obtain hcorrect | hended | hquoted := hreason
      · exact Or.inl ⟨rfl, .correct hcorrect⟩
      · exact Or.inl ⟨rfl, .ended hended⟩
      · exact Or.inl ⟨rfl, .quoted hquoted⟩
    · rw [hreport]
      exact Or.inr ⟨d, token, rfl, hreports⟩

/-- A leaf of two lines that looks like another message itself. -/
theorem check_reports_token_line_of_quoted_message :
    let source : Text := Text.ofString "x = ` TypeError: y is not defined\n:`"
    let token : Text := Text.ofString "` TypeError: y is not defined\n:`"
    let tree : SyntaxTree := .node ⟨0, 36, 0, 0⟩ false true
      [.node ⟨0, 3, 0, 0⟩ false false [],
        .node ⟨4, 36, 0, 4⟩ false true [.node ⟨4, 36, 0, 4⟩ false false []]]
    source.IsEncodable ∧ ∃ d, check (fun _ => tree) source = .ok [d] ∧
      Reports (source.flatMap CodePoint.utf8) tree.firstProblem token d ∧
      d.message = "Unexpected token ` TypeError: y is not defined" := by
  intro source token tree
  have hsource : source.IsEncodable := by
    decide +kernel
  refine ⟨hsource, ?_⟩
  obtain ⟨hnil, -⟩ | ⟨d, named, hcheck, hreports⟩ :=
    check_reports_token_line (fun _ => tree) hsource
  · exact absurd hnil (by decide +kernel)
  · have hnamed : named = token := by
      have hoffending := hreports.offending
      rw [IsOffending, if_neg (by decide)] at hoffending
      rw [hoffending]
      decide +kernel
    subst hnamed
    refine ⟨d, hcheck, hreports, ?_⟩
    rw [hreports.message]
    decide +kernel

end SnippetReview.JavaScript
