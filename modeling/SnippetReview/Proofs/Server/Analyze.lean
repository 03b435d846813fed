import SnippetReview.Proofs.Evaluate
import SnippetReview.Proofs.Serialization
import SnippetReview.Proofs.Server.Basic
import SnippetReview.Script.Parse

/-!
The evaluation of a snippet over the service: a posted snippet is answered with the verdict that its
evaluation gives, and the answer is a failure exactly if the evaluation gives none or the request is
nested too deeply to be read.
-/

set_option autoImplicit false

namespace SnippetReview

private theorem Verdict.member?_toJson (verdict : Verdict) :
    verdict.toJson.member? "language" = some (.str verdict.language) ∧
      verdict.toJson.member? "errors" = some (.arr (verdict.errors.map Diagnostic.toJson)) ∧
      verdict.toJson.member? "guidance" = some (.arr (verdict.guidance.map .str)) :=
  ⟨verdict.member?_toJson_eq _, verdict.member?_errors, verdict.member?_guidance⟩

namespace Handler

section Rejected

variable (status : Nat) (message language : Text) (errors : List Diagnostic) (guidance : List Text)
  (log : List LogRecord)

@[simp] theorem status_rejected :
    (rejected status message language errors guidance log).status = status := rfl

private theorem isCorrect_rejected : (rejected status message language errors guidance log).member?
    "isCorrect" = some (.bool false) := rfl

private theorem language_rejected : (rejected status message language errors guidance log).detail?
    "language" = some (.str language) := rfl

private theorem errors_rejected : (rejected status message language errors guidance log).detail?
    "errors" = some (.arr (errors.map Diagnostic.toJson)) := rfl

private theorem guidance_rejected : (rejected status message language errors guidance log).detail?
    "guidance" = some (.arr (guidance.map .str)) := rfl

end Rejected

@[simp] theorem status_ofFailure (language : Text) (failure : Evaluate.Failure) :
    (ofFailure language failure).status = 500 := rfl

@[simp] theorem status_ofVerdict (source : Text) (verdict : Verdict) :
    (ofVerdict source verdict).status = 200 := by
  unfold ofVerdict
  cases verdict.isValid <;> rfl

private theorem isCorrect_ofVerdict (source : Text) (verdict : Verdict) :
    (ofVerdict source verdict).member? "isCorrect" = some (.bool verdict.isValid) := by
  unfold ofVerdict
  cases verdict.isValid <;> rfl

private theorem exists_detail?_ofVerdict (source : Text) {verdict : Verdict}
    (h : verdict.isValid = false) :
    ∀ name ∈ [Text.ofString "language", Text.ofString "errors", Text.ofString "guidance"],
      ∃ value, verdict.toJson.member? name = some value ∧
        (ofVerdict source verdict).detail? name = some value := by
  have hrejected : ofVerdict source verdict = rejected 200 "Issues found" verdict.language
      verdict.errors verdict.guidance [analyzed source verdict] := by
    simp [ofVerdict, h]
  obtain ⟨hlanguage, herrors, hguidance⟩ := verdict.member?_toJson
  rw [hrejected]
  intro name hname
  simp only [List.mem_cons, List.not_mem_nil, or_false] at hname
  rcases hname with rfl | rfl | rfl
  · exact ⟨_, hlanguage, language_rejected ..⟩
  · exact ⟨_, herrors, errors_rejected ..⟩
  · exact ⟨_, hguidance, guidance_rejected ..⟩

inductive AnalyzeAnswer (calls : Nat) (parse : Text → SyntaxTree) (code language : Text) :
    Response → Prop
  | blank (hblank : code.isBlank = true) :
    AnalyzeAnswer calls parse code language
      (rejected 400 "No code provided" language [noCode] [] [])
  | evaluated (hblank : code.isBlank = false) {verdict : Verdict}
    (hresult : Evaluate.evaluateWithin calls parse (some code) (some language) = .ok verdict) :
    AnalyzeAnswer calls parse code language (ofVerdict code verdict)
  | failed (hblank : code.isBlank = false) {failure : Evaluate.Failure}
    (hresult : Evaluate.evaluateWithin calls parse (some code) (some language) = .error failure) :
    AnalyzeAnswer calls parse code language (ofFailure language failure)

private theorem analyzeAnswer_analyze (settings : Settings) (calls : Nat)
    (parse : Text → SyntaxTree)
    (submitted : Json) :
    AnalyzeAnswer calls parse (submitted.text "code") (languageOf settings submitted)
      (analyze settings calls parse submitted) := by
  unfold analyze
  cases hblank : (submitted.text "code").isBlank with
  | true =>
    simp only [hblank, if_true]
    exact .blank hblank
  | false =>
    simp only [hblank, Bool.false_eq_true, if_false]
    cases hresult : Evaluate.evaluateWithin calls parse (some (submitted.text "code"))
        (some (languageOf settings submitted)) with
    | ok verdict => exact .evaluated hblank hresult
    | error failure => exact .failed hblank hresult

namespace AnalyzeAnswer

variable {calls : Nat} {parse : Text → SyntaxTree} {code language : Text} {response : Response}

/-- The service fails exactly if the evaluation gives no verdict. -/
theorem status_eq_500_iff (h : AnalyzeAnswer calls parse code language response) :
    response.status = 500 ↔ ∃ failure,
      Evaluate.evaluateWithin calls parse (some code) (some language) = .error failure := by
  cases h with
  | blank hblank =>
    rw [status_rejected, Evaluate.evaluateWithin_of_isBlank hblank]
    simp
  | evaluated hblank hresult =>
    rw [status_ofVerdict, hresult]
    simp
  | failed hblank hresult =>
    rw [status_ofFailure, hresult]
    simp

private theorem exists_errors (h : AnalyzeAnswer calls parse code language response)
    (hstatus : response.status = 200)
    (hwrong : response.member? "isCorrect" = some (.bool false)) :
    ∃ first rest, response.detail? "errors" = some (.arr (first :: rest)) := by
  cases h with
  | blank => simp at hstatus
  | failed => simp at hstatus
  | @evaluated _ verdict hresult =>
    rw [isCorrect_ofVerdict] at hwrong
    have hinvalid : verdict.isValid = false := by simpa using hwrong
    have hempty := Evaluate.isValid_eq_of_evaluate (Evaluate.evaluateWithin_eq_ok_iff.mp hresult).1
    obtain ⟨value, hvalue, hdetail⟩ := exists_detail?_ofVerdict code hinvalid "errors" (by simp)
    rw [verdict.member?_toJson.2.1] at hvalue
    rw [hdetail, ← hvalue]
    cases herrors : verdict.errors with
    | nil => simp [hinvalid, herrors] at hempty
    | cons first rest => exact ⟨_, _, rfl⟩

private theorem eq_of_isBlank (h : AnalyzeAnswer calls parse code language response)
    (hblank : code.isBlank = true) :
    response = rejected 400 "No code provided" language [noCode] [] [] := by
  cases h with
  | blank => rfl
  | evaluated hother | failed hother => simp [hblank] at hother

private theorem eq_of_evaluate {verdict : Verdict}
    (h : AnalyzeAnswer calls parse code language response)
    (hblank : code.isBlank = false)
    (hresult : Evaluate.evaluateWithin calls parse (some code) (some language) = .ok verdict) :
    response = ofVerdict code verdict := by
  cases h with
  | blank hother => simp [hblank] at hother
  | evaluated _ hother =>
    rw [hresult, Except.ok.injEq] at hother
    rw [hother]
  | failed _ hother => simp [hresult] at hother

end AnalyzeAnswer

end Handler

namespace Server

theorem analyzeAnswer_review {context : Context} {request : Request} {code submitted : Text}
    (hread : ¬ request.TooDeep context.limits.nesting) (hcode : request.Submits "code" code)
    (hsubmitted : request.Submits "language" submitted) :
    Handler.AnalyzeAnswer context.limits.calls context.parse code
      (if submitted.isEmpty then context.settings.defaultLanguage else submitted)
      (review context request) := by
  obtain ⟨object, hanswer, htext⟩ := Handler.exists_onSubmission_eq hread
  rw [htext _ _ hcode, htext _ _ hsubmitted, review, hanswer]
  exact Handler.analyzeAnswer_analyze ..

/-- What the service answers to posted code. A request that is nested too deeply makes the service
fail. Otherwise blank code is refused with a fixed error. Any other code is answered with the
verdict of its evaluation, whose language, errors and guidance are passed on if it is not good. Only
an evaluation without a verdict makes the service fail; it is one of a script with surrogates that
does not look half-written, or of one whose problem lies too deep. Code that is found wrong has an
error. -/
theorem analyze_agrees_with_evaluation (context : Context) {request : Request}
    {code submitted : Text} (hposts : request.Posts "/api/analyze")
    (hcode : request.Submits "code" code) (hsubmitted : request.Submits "language" submitted) :
    let language := if submitted.isEmpty then context.settings.defaultLanguage else submitted
    let result :=
      Evaluate.evaluateWithin context.limits.calls context.parse (some code) (some language)
    let response := handle context request
    (request.TooDeep context.limits.nesting → response.status = 500 ∧ response.json? = none) ∧
    (¬ request.TooDeep context.limits.nesting →
      (code.isBlank = true → response.status = 400 ∧
        response.member? "isCorrect" = some (.bool false) ∧
        response.detail? "language" = some (.str language) ∧
        response.detail? "errors" = some (.arr [Handler.noCode.toJson])) ∧
      (∀ verdict, code.isBlank = false → result = .ok verdict → response.status = 200 ∧
        response.member? "isCorrect" = some (.bool verdict.isValid) ∧
        (verdict.isValid = false →
          ∀ name ∈ [Text.ofString "language", Text.ofString "errors", Text.ofString "guidance"],
            ∃ value, verdict.toJson.member? name = some value ∧
              response.detail? name = some value)) ∧
      (response.status = 500 ↔ ∃ failure, result = .error failure)) ∧
    ((∃ failure, result = .error failure) ↔
      ((∃ c ∈ code, c.isSurrogate = true) ∧ Language.resolve (some language) = .javascript ∧
        code.trim.endsWithAny [")", "\x7b", ":"] = false) ∨
      context.limits.calls < Evaluate.searchDepth context.parse (some code) (some language)) ∧
    (response.status = 200 → response.member? "isCorrect" = some (.bool false) →
      ∃ first rest, response.detail? "errors" = some (.arr (first :: rest))) := by
  obtain ⟨headers, hhandle⟩ := exists_handle_analyze context hposts
  intro language result response
  have hresponse : response = { review context request with headers } := hhandle
  have hcause : (∃ failure, result = .error failure) ↔ _ :=
    Evaluate.exists_evaluateWithin_eq_error_iff
  rw [Evaluate.exists_evaluate_eq_error_iff, Text.not_isEncodable_iff] at hcause
  rw [hresponse]
  by_cases hdeep : request.TooDeep context.limits.nesting
  · rw [review_of_tooDeep hdeep]
    exact ⟨fun _ => ⟨rfl, rfl⟩, absurd hdeep, hcause, nofun⟩
  have hanswer := analyzeAnswer_review hdeep hcode hsubmitted
  refine ⟨fun h => absurd h hdeep, fun _ => ⟨?_, ?_, hanswer.status_eq_500_iff⟩, hcause,
    hanswer.exists_errors⟩
  · intro hblank
    rw [hanswer.eq_of_isBlank hblank]
    exact ⟨rfl, Handler.isCorrect_rejected 400 _ language [Handler.noCode] [] [],
      Handler.language_rejected 400 _ language [Handler.noCode] [] [],
      Handler.errors_rejected 400 _ language [Handler.noCode] [] []⟩
  · intro verdict hblank hresult
    rw [hanswer.eq_of_evaluate hblank hresult]
    exact ⟨Handler.status_ofVerdict .., Handler.isCorrect_ofVerdict ..,
      Handler.exists_detail?_ofVerdict _⟩

/-- Three posted bodies. The language in one is no text and its code is given twice, so that an open
block in the assumed language is found wrong; one is a script with half a pair in a string; and one
opens arrays and does not close them. -/
theorem analyze_agrees_with_evaluation_of_three_bodies :
    let context : Context :=
      ⟨{ Settings.default with defaultLanguage := "Python3" }, 0, Script.parse, ⟨970, 970⟩⟩
    let block := Request.posting "/api/analyze"
      "\x7b\"code\": 1, \"language\": null, \"code\": \"\\tif x\"\x7d"
    let script := Request.posting "/api/analyze"
      "\x7b\"code\": \"let s = '\\ud800';\", \"language\": \"JS\"\x7d"
    let nested := Request.posting "/api/analyze" (List.replicate 2000 (CodePoint.ofChar '['))
    (block.Posts "/api/analyze" ∧ block.Submits "code" "\tif x" ∧
      block.Submits "language" [] ∧ (handle context block).status = 200 ∧
      (handle context block).member? "isCorrect" = some (.bool false) ∧
      ∃ first rest, (handle context block).detail? "errors" = some (.arr (first :: rest))) ∧
    (script.Posts "/api/analyze" ∧
      script.Submits "code"
        (Text.ofString "let s = '" ++ ⟨0xD800, by decide⟩ :: Text.ofString "';") ∧
      script.Submits "language" "JS" ∧ (handle context script).status = 500) ∧
    nested.Posts "/api/analyze" ∧ (handle context nested).status = 500 ∧
      (handle context nested).json? = none := by
  intro context block script nested
  have hposts : ∀ body : Text, (Request.posting "/api/analyze" body).Posts "/api/analyze" :=
    Request.posts_posting (by decide +kernel)
  refine ⟨?_, ?_, hposts _, ?_⟩
  · have hread : ¬ block.TooDeep 970 := Request.not_tooDeep_iff.mpr (by decide +kernel)
    have hcode : block.Submits "code" "\tif x" := Request.submits_of_text 970 (by decide +kernel)
    have hnone : block.Submits "language" [] := Request.submits_of_text 970 (by decide +kernel)
    have hresult : Evaluate.evaluateWithin context.limits.calls context.parse (some "\tif x")
        (some context.settings.defaultLanguage) =
          .ok (Evaluate.verdict .python "\tif x" (Python.check "\tif x")) := by
      decide +kernel
    have hinvalid :
        (Evaluate.verdict .python "\tif x" (Python.check "\tif x")).isValid = false := by
      decide +kernel
    obtain ⟨-, hanswer, -, herrors⟩ :=
      analyze_agrees_with_evaluation context (hposts _ : block.Posts _) hcode hnone
    obtain ⟨hstatus, hcorrect, -⟩ := (hanswer hread).2.1 _ (by decide +kernel) hresult
    rw [hinvalid] at hcorrect
    exact ⟨hposts _, hcode, hnone, hstatus, hcorrect, herrors hstatus hcorrect⟩
  · have hread : ¬ script.TooDeep 970 := Request.not_tooDeep_iff.mpr (by decide +kernel)
    have hcode : script.Submits "code"
        (Text.ofString "let s = '" ++ ⟨0xD800, by decide⟩ :: Text.ofString "';") :=
      Request.submits_of_text 970 (by decide +kernel)
    have hlanguage : script.Submits "language" "JS" :=
      Request.submits_of_text 970 (by decide +kernel)
    obtain ⟨-, hanswer, hcause, -⟩ :=
      analyze_agrees_with_evaluation context (hposts _ : script.Posts _) hcode hlanguage
    have hfailure := (hanswer hread).2.2.mpr (hcause.mpr (.inl (by decide +kernel)))
    exact ⟨hposts _, hcode, hlanguage, hfailure⟩
  · have hdeep := Request.tooDeep_posting_replicate "/api/analyze" []
      (show 970 + Json.complaintLevels < 2000 by decide)
    rw [List.append_nil] at hdeep
    obtain ⟨code, hcode, -⟩ := Request.existsUnique_submits nested "code"
    obtain ⟨language, hlanguage, -⟩ := Request.existsUnique_submits nested "language"
    exact (analyze_agrees_with_evaluation context (hposts _ : nested.Posts _) hcode hlanguage).1
      hdeep

end Server

end SnippetReview
