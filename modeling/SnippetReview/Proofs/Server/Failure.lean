import SnippetReview.Proofs.Server.Analyze
import SnippetReview.Proofs.Server.Login

/-!
When the service fails on what is posted to it. Under settings that have bytes it answers with a
JSON object and an ordinary status, but for bodies that are nested too deeply to be read, for
scripts whose problem lies too deep, for surrogates where bytes are asked for, in a script or in
credentials, and for tokens whose times are too long to be written.
-/

set_option autoImplicit false

namespace SnippetReview

/-- A response is an answer if it is a JSON object that says whether all is well, with a status that
is no failure of the service. -/
structure Response.IsAnswer (response : Response) : Prop where
  contentType : response.contentType = "application/json"
  ok : ∃ value, response.member? "ok" = some (.bool value)
  status : response.status = 200 ∨ response.status = 400 ∨ response.status = 401

private theorem Response.isAnswer_withHeaders_iff {response : Response} {headers : Headers} :
    ({ response with headers } : Response).IsAnswer ↔ response.IsAnswer :=
  ⟨fun h => ⟨h.contentType, h.ok, h.status⟩, fun h => ⟨h.contentType, h.ok, h.status⟩⟩

private theorem Response.not_isAnswer_failure : ¬ failure.IsAnswer := by
  intro h
  have hstatus := h.status
  rw [status_failure] at hstatus
  omega

namespace Handler

private theorem isAnswer_ofVerdict (source : Text) (verdict : Verdict) :
    (ofVerdict source verdict).IsAnswer := by
  unfold ofVerdict
  cases verdict.isValid with
  | true => exact ⟨rfl, ⟨true, rfl⟩, .inl rfl⟩
  | false => exact ⟨rfl, ⟨true, rfl⟩, .inl rfl⟩

private theorem AnalyzeAnswer.isAnswer_iff {calls : Nat} {parse : Text → SyntaxTree}
    {code language : Text} {response : Response}
    (h : AnalyzeAnswer calls parse code language response) :
    response.IsAnswer ↔ response.status ≠ 500 := by
  constructor
  · intro hanswer
    have hstatus := hanswer.status
    omega
  · intro hstatus
    cases h with
    | blank => exact ⟨rfl, ⟨true, rfl⟩, .inr (.inl rfl)⟩
    | evaluated => exact isAnswer_ofVerdict ..
    | failed => exact absurd rfl hstatus

variable {settings : Settings} {now : Int} {username password : Text} {response : Response}

private theorem LoginAnswer.isAnswer_iff (h : LoginAnswer settings now username password response) :
    response.IsAnswer ↔ response.status ≠ 500 := by
  constructor
  · intro hanswer
    have hstatus := hanswer.status
    omega
  · intro hstatus
    cases h with
    | missing => exact ⟨rfl, ⟨false, rfl⟩, .inr (.inl rfl)⟩
    | wrong => exact ⟨rfl, ⟨false, rfl⟩, .inr (.inr rfl)⟩
    | issued => exact ⟨rfl, ⟨true, rfl⟩, .inl rfl⟩
    | incomparable | unissuable => exact absurd rfl hstatus

end Handler

namespace Server

/-- Under settings that have bytes, posted code gets no answer exactly if the body is nested too
deeply to be read, it is a script with surrogates that does not look half-written, or its problem
lies too deep. Posted credentials get none exactly if the body is nested too deeply, or they are
given and there is a surrogate in them, or they are those of the account and a time of the token is
too long to be written. What is no answer is a failure of the service. -/
theorem isAnswer_unless_unencodable_or_tooDeep (context : Context) {request : Request}
    (hadminUser : context.settings.adminUser.IsEncodable)
    (hadminPass : context.settings.adminPass.IsEncodable)
    (hsecret : context.settings.authSecret.IsEncodable) :
    let settings := context.settings
    let response := handle context request
    (request.Posts "/api/analyze" → ∀ code submitted : Text, request.Submits "code" code →
      request.Submits "language" submitted →
      let language := if submitted.isEmpty then settings.defaultLanguage else submitted
      (response.IsAnswer ↔ ¬ (request.TooDeep context.limits.nesting ∨
        ((∃ c ∈ code, c.isSurrogate = true) ∧ Language.resolve (some language) = .javascript ∧
          code.trim.endsWithAny [")", "\x7b", ":"] = false) ∨
        context.limits.calls <
          Evaluate.searchDepth context.parse (some code) (some language))) ∧
      (¬ response.IsAnswer → response.status = 500)) ∧
    (request.Posts "/api/login" → ∀ username password : Text,
      request.Submits "username" username → request.Submits "password" password →
      (response.IsAnswer ↔ ¬ (request.TooDeep context.limits.nesting ∨
        (username ≠ [] ∧ password ≠ [] ∧
          ((∃ c ∈ username ++ password, c.isSurrogate = true) ∨
            username = settings.adminUser ∧ password = settings.adminPass ∧
              ¬ (Numeral.writable context.now = true ∧
                Numeral.writable (context.now + settings.tokenLifetime) = true))))) ∧
      (¬ response.IsAnswer → response.status = 500)) := by
  intro settings response
  by_cases hdeep : request.TooDeep context.limits.nesting
  · simp only [hdeep, true_or, not_true_eq_false, iff_false]
    constructor
    · intro hposts code submitted hcode hsubmitted
      obtain ⟨headers, hhandle⟩ := exists_handle_analyze context hposts
      rw [show response = _ from hhandle, Response.isAnswer_withHeaders_iff,
        review_of_tooDeep hdeep]
      exact ⟨Response.not_isAnswer_failure, fun _ => rfl⟩
    · intro hposts username password huser hpass
      obtain ⟨headers, hhandle⟩ := exists_handle_login context hposts
      rw [show response = _ from hhandle, Response.isAnswer_withHeaders_iff,
        exchange_of_tooDeep hdeep]
      exact ⟨Response.not_isAnswer_failure, fun _ => rfl⟩
  simp only [hdeep, false_or]
  constructor
  · intro hposts code submitted hcode hsubmitted
    obtain ⟨headers, hhandle⟩ := exists_handle_analyze context hposts
    have hanswer := analyzeAnswer_review hdeep hcode hsubmitted
    rw [show response = _ from hhandle, Response.isAnswer_withHeaders_iff, hanswer.isAnswer_iff]
    refine ⟨?_, not_not.mp⟩
    rw [Ne, hanswer.status_eq_500_iff, Evaluate.exists_evaluateWithin_eq_error_iff,
      Evaluate.exists_evaluate_eq_error_iff, Text.not_isEncodable_iff]
    exact Iff.rfl
  · intro hposts username password huser hpass
    obtain ⟨headers, hhandle⟩ := exists_handle_login context hposts
    have hanswer := loginAnswer_exchange hdeep huser hpass
    rw [show response = _ from hhandle, Response.isAnswer_withHeaders_iff, hanswer.isAnswer_iff]
    refine ⟨?_, not_not.mp⟩
    rw [Ne, hanswer.status_eq_500_iff, Token.exists_issue_eq_ok_iff, and_iff_right hsecret,
      Handler.comparable_iff hadminUser hadminPass, Handler.AreAccount, ← or_iff_not_imp_left,
      and_assoc, and_assoc]

/-- Half a pair in a string of a script, and in the name of a user; then a body of opening brackets
on both routes. -/
theorem isAnswer_unless_unencodable_or_tooDeep_of_four_bodies :
    let context : Context := ⟨Settings.default, 1700000000, Script.parse, ⟨970, 970⟩⟩
    let lone : CodePoint := ⟨0xD800, by decide⟩
    let script := Request.posting "/api/analyze"
      "\x7b\"code\": \"let s = \\\"\\ud800\\\";\"\x7d"
    let login := Request.posting "/api/login"
      "\x7b\"username\": \"\\ud800\", \"password\": \"x\"\x7d"
    let nested (path : Text) := Request.posting path (List.replicate 2000 (CodePoint.ofChar '['))
    (Settings.default.adminUser.IsEncodable ∧ Settings.default.adminPass.IsEncodable ∧
      Settings.default.authSecret.IsEncodable) ∧
    (script.Posts "/api/analyze" ∧
      script.Submits "code" (Text.ofString "let s = \"" ++ lone :: Text.ofString "\";") ∧
      script.Submits "language" [] ∧ ¬ (handle context script).IsAnswer ∧
      (handle context script).status = 500) ∧
    (login.Posts "/api/login" ∧ login.Submits "username" [lone] ∧
      login.Submits "password" "x" ∧ ¬ (handle context login).IsAnswer ∧
      (handle context login).status = 500) ∧
    (∀ path, (nested path).TooDeep 970) ∧
    ((nested "/api/analyze").Posts "/api/analyze" ∧
      (handle context (nested "/api/analyze")).status = 500) ∧
    (nested "/api/login").Posts "/api/login" ∧
      (handle context (nested "/api/login")).status = 500 := by
  intro context lone script login nested
  have hadminUser : Settings.default.adminUser.IsEncodable := by decide
  have hadminPass : Settings.default.adminPass.IsEncodable := by decide
  have hsecret : Settings.default.authSecret.IsEncodable := by decide
  have hanalyze : ∀ body : Text, (Request.posting "/api/analyze" body).Posts "/api/analyze" :=
    Request.posts_posting (by decide +kernel)
  have hlogin : ∀ body : Text, (Request.posting "/api/login" body).Posts "/api/login" :=
    Request.posts_posting (by decide +kernel)
  have hfails (request : Request) :=
    @isAnswer_unless_unencodable_or_tooDeep context request hadminUser hadminPass hsecret
  have hdeep : ∀ path, (nested path).TooDeep 970 := by
    intro path
    have h := Request.tooDeep_posting_replicate path []
      (show 970 + Json.complaintLevels < 2000 by decide)
    rwa [List.append_nil] at h
  refine ⟨⟨hadminUser, hadminPass, hsecret⟩, ?_, ?_, hdeep, ⟨hanalyze _, ?_⟩, hlogin _, ?_⟩
  · have hcode : script.Submits "code"
        (Text.ofString "let s = \"" ++ lone :: Text.ofString "\";") :=
      Request.submits_of_text 970 (by decide +kernel)
    have hlanguage : script.Submits "language" [] :=
      Request.submits_of_text 970 (by decide +kernel)
    obtain ⟨hanswer, hfailure⟩ := (hfails script).1 (hanalyze _) _ _ hcode hlanguage
    have hnone : ¬ (handle context script).IsAnswer := by
      rw [hanswer, not_not]
      exact .inr (.inl (by decide +kernel))
    exact ⟨hanalyze _, hcode, hlanguage, hnone, hfailure hnone⟩
  · have huser : login.Submits "username" [lone] := Request.submits_of_text 970 (by decide +kernel)
    have hpass : login.Submits "password" "x" := Request.submits_of_text 970 (by decide +kernel)
    obtain ⟨hanswer, hfailure⟩ := (hfails login).2 (hlogin _) _ _ huser hpass
    have hnone : ¬ (handle context login).IsAnswer := by
      rw [hanswer, not_not]
      exact .inr ⟨by decide, by decide, .inl (by decide)⟩
    exact ⟨hlogin _, huser, hpass, hnone, hfailure hnone⟩
  · obtain ⟨code, hcode, -⟩ := (nested "/api/analyze").existsUnique_submits "code"
    obtain ⟨language, hlanguage, -⟩ := (nested "/api/analyze").existsUnique_submits "language"
    obtain ⟨hanswer, hfailure⟩ := (hfails (nested _)).1 (hanalyze _) _ _ hcode hlanguage
    exact hfailure fun h => hanswer.mp h (.inl (hdeep _))
  · obtain ⟨username, huser, -⟩ := (nested "/api/login").existsUnique_submits "username"
    obtain ⟨password, hpass, -⟩ := (nested "/api/login").existsUnique_submits "password"
    obtain ⟨hanswer, hfailure⟩ := (hfails (nested _)).2 (hlogin _) _ _ huser hpass
    exact hfailure fun h => hanswer.mp h (.inl (hdeep _))

end Server

end SnippetReview
