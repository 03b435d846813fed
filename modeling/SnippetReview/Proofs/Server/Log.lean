import SnippetReview.Proofs.Server.Analyze
import SnippetReview.Proofs.Server.Login
import SnippetReview.Proofs.Text.Quoted

/-!
What the service writes to its log. Texts from requests and from the settings get there in quotes
only, so that every record is one line, and a failed login cannot be told as another one. What the
framework adds by itself about an unforeseen failure is not among the records.
-/

set_option autoImplicit false

namespace SnippetReview

namespace Handler

/-- The records of the log: a verdict on code, a failure to evaluate code, and a login that is
refused. -/
inductive Logged (request : Request) (status : Nat) : LogRecord → Prop
  | analyzed (source : Text) {verdict : Verdict} {language : Language}
    (hlanguage : verdict.language = language.name) :
    Logged request status (Handler.analyzed source verdict)
  | failed (language : Text) : Logged request status
      ⟨.error, Text.ofString "Evaluation failed for language=" ++ Quoted.encode language⟩
  | refused (hstatus : status = 401) {username : Text}
    (huser : request.Submits "username" username) : Logged request status (loginFailed username)

variable {request : Request} {record : LogRecord}

private theorem AnalyzeAnswer.logged {calls : Nat} {parse : Text → SyntaxTree}
    {code language : Text}
    {response : Response} (h : AnalyzeAnswer calls parse code language response)
    (hrecord : record ∈ response.log) : Logged request response.status record := by
  cases h with
  | blank => cases hrecord
  | @evaluated _ verdict hresult =>
    obtain ⟨name, hname⟩ :=
      Evaluate.exists_language_of_evaluate (Evaluate.evaluateWithin_eq_ok_iff.mp hresult).1
    have hlog : (ofVerdict code verdict).log = [Handler.analyzed code verdict] := by
      unfold ofVerdict
      cases verdict.isValid <;> rfl
    rw [hlog, List.mem_singleton] at hrecord
    rw [hrecord]
    exact .analyzed code hname
  | failed =>
    obtain rfl := List.mem_singleton.mp hrecord
    exact .failed language

private theorem AnalyzeAnswer.status_ne_401 {calls : Nat} {parse : Text → SyntaxTree}
    {code language : Text} {response : Response}
    (h : AnalyzeAnswer calls parse code language response) :
    response.status ≠ 401 := by
  cases h with
  | blank | evaluated | failed => simp

section Login

variable {settings : Settings} {now : Int} {username password : Text} {response : Response}

private theorem LoginAnswer.logged (h : LoginAnswer settings now username password response)
    (huser : request.Submits "username" username)
    (hrecord : record ∈ response.log) : Logged request response.status record := by
  cases h with
  | missing | incomparable | unissuable | issued => cases hrecord
  | wrong =>
    obtain rfl := List.mem_singleton.mp hrecord
    exact .refused rfl huser

private theorem LoginAnswer.log_of_status_eq_401
    (h : LoginAnswer settings now username password response) (hstatus : response.status = 401) :
    response.log = [loginFailed username] := by
  cases h with
  | missing | incomparable | unissuable | issued => cases hstatus
  | wrong => rfl

end Login

private theorem Logged.isPrintable {status : Nat} (h : Logged request status record) :
    record.message.IsPrintable := by
  have hname : ∀ language : Language, language.name.IsPrintable := by
    intro language
    cases language <;> decide
  cases h with
  | @analyzed source verdict language hlanguage =>
    simp only [Handler.analyzed, Text.isPrintable_append_iff, hlanguage]
    exact ⟨⟨⟨⟨⟨⟨by decide, Numeral.isPrintable_ofNat _⟩, by decide⟩, hname language⟩, by decide⟩,
      Numeral.isPrintable_ofNat _⟩, by decide⟩
  | failed language =>
    rw [Text.isPrintable_append_iff]
    exact ⟨by decide +kernel, Quoted.isPrintable_encode language⟩
  | refused =>
    rw [loginFailed, Text.isPrintable_append_iff]
    exact ⟨by decide +kernel, Quoted.isPrintable_encode _⟩

private theorem head?_message_loginFailed (username : Text) :
    (loginFailed username).message.head? = some (CodePoint.ofChar 'F') := by
  have hhead : (Text.ofString "Failed login attempt for user ").head? =
      some (CodePoint.ofChar 'F') := by
    decide +kernel
  rw [loginFailed, List.head?_append, hhead, Option.some_or]

/-- Only a refused login is told as one, and only as one with the name that was submitted. -/
private theorem Logged.eq_of_message_eq {status : Nat} {username : Text}
    (h : Logged request status record)
    (hmessage : record.message = (loginFailed username).message) :
    status = 401 ∧ request.Submits "username" username := by
  have hhead := head?_message_loginFailed username
  rw [← hmessage] at hhead
  cases h with
  | analyzed =>
    have hother : (Text.ofString "Analyzed ").head? = some (CodePoint.ofChar 'A') := by
      decide +kernel
    simp only [Handler.analyzed, List.head?_append, hother, Option.some_or] at hhead
    exact absurd hhead (by decide)
  | failed =>
    have hother : (Text.ofString "Evaluation failed for language=").head? =
        some (CodePoint.ofChar 'E') := by
      decide +kernel
    simp only [List.head?_append, hother, Option.some_or] at hhead
    exact absurd hhead (by decide)
  | refused hstatus huser =>
    exact ⟨hstatus, Quoted.encode_injective (List.append_cancel_left hmessage) ▸ huser⟩

end Handler

namespace Server

variable (context : Context) (request : Request)

private theorem status_handle :
    (handle context request).status = (respond context request).status := by
  unfold handle
  split <;> rfl

private theorem log_handle : (handle context request).log = (respond context request).log := by
  unfold handle
  split <;> rfl

private theorem respond_cases :
    respond context request = review context request ∨
    respond context request = exchange context request ∨
    (respond context request).log = [] ∧ (respond context request).status ≠ 401 := by
  unfold respond
  simp only
  split
  · next route _ =>
    unfold serve
    split
    · exact .inr (.inr ⟨rfl, nofun⟩)
    · cases route with
      | analyze => exact .inl rfl
      | login => exact .inr (.inl rfl)
      | health | asset => exact .inr (.inr ⟨rfl, nofun⟩)
  · exact .inr (.inr ⟨rfl, nofun⟩)
  · exact .inr (.inr ⟨rfl, nofun⟩)
  · exact .inr (.inr ⟨rfl, nofun⟩)

variable {context request}

/-- A request that is read gets an answer to what it submits; one that is not gets none, and nothing
is logged. -/
private theorem review_cases : review context request = .failure ∨
    ∃ code language, Handler.AnalyzeAnswer context.limits.calls context.parse code language
      (review context request) := by
  by_cases hdeep : request.TooDeep context.limits.nesting
  · exact .inl (review_of_tooDeep hdeep)
  · obtain ⟨code, hcode, -⟩ := request.existsUnique_submits "code"
    obtain ⟨language, hlanguage, -⟩ := request.existsUnique_submits "language"
    exact .inr ⟨code, _, analyzeAnswer_review hdeep hcode hlanguage⟩

private theorem logged_of_mem_log {record : LogRecord} (h : record ∈ (handle context request).log) :
    Handler.Logged request (handle context request).status record := by
  rw [log_handle] at h
  rw [status_handle]
  rcases respond_cases context request with hreview | hexchange | ⟨hnone, -⟩
  · rw [hreview] at h ⊢
    rcases @review_cases context request with hfailure | ⟨code, language, hanswer⟩
    · rw [hfailure] at h
      cases h
    · exact hanswer.logged h
  · rw [hexchange] at h ⊢
    rcases @exchange_cases context request with hfailure | ⟨username, password, huser, hanswer⟩
    · rw [hfailure] at h
      cases h
    · exact hanswer.logged huser h
  · rw [hnone] at h
    cases h

private theorem log_of_status_eq_401 (h : (handle context request).status = 401) :
    ∃ username, request.Submits "username" username ∧
      (handle context request).log = [Handler.loginFailed username] := by
  rw [status_handle] at h
  rw [log_handle]
  rcases respond_cases context request with hreview | hexchange | ⟨-, hother⟩
  · rw [hreview] at h
    rcases @review_cases context request with hfailure | ⟨code, language, hanswer⟩
    · rw [hfailure] at h
      cases h
    · exact absurd h hanswer.status_ne_401
  · rw [hexchange] at h ⊢
    rcases @exchange_cases context request with hfailure | ⟨username, password, huser, hanswer⟩
    · rw [hfailure] at h
      cases h
    · exact ⟨username, huser, hanswer.log_of_status_eq_401 h⟩
  · exact absurd h hother

/-- Whatever is asked of the service, what it logs is printable, so that no record spans lines or
holds a control character. A refused login is logged as one with the name that it submitted, and
what is logged is told so only for another refused login with the same name. -/
theorem log_cannot_be_forged (context : Context) (request : Request) :
    (∀ record ∈ (handle context request).log, record.message.IsPrintable ∧
      ∀ c ∈ record.message, ¬ c.EndsLine ∧ ¬ c.IsControl) ∧
    ∀ username : Text, request.Submits "username" username →
      (handle context request).status = 401 →
        (handle context request).log = [Handler.loginFailed username] ∧
        ∀ (other : Context) (second : Request), ∀ record ∈ (handle other second).log,
          record.message = (Handler.loginFailed username).message →
            (handle other second).status = 401 ∧
            ∀ name : Text, second.Submits "username" name → name = username := by
  constructor
  · intro record hrecord
    have hprintable := (logged_of_mem_log hrecord).isPrintable
    refine ⟨hprintable, fun c hc => ?_⟩
    have hc := hprintable c hc
    exact ⟨CodePoint.not_endsLine_of_isPrintable hc, CodePoint.not_isControl_of_isPrintable hc⟩
  · intro username hsubmits hstatus
    obtain ⟨submitted, huser, hlog⟩ := log_of_status_eq_401 hstatus
    obtain rfl := huser.eq hsubmits
    refine ⟨hlog, ?_⟩
    intro other second record hrecord hmessage
    obtain ⟨hrefused, hname⟩ := (logged_of_mem_log hrecord).eq_of_message_eq hmessage
    exact ⟨hrefused, fun name hsecond => hsecond.eq hname⟩

/-- A name with a line break and one that spells it are both refused, and not told as each other. -/
theorem log_cannot_be_forged_of_line_break :
    let context : Context := ⟨Settings.default, 1700000000, Script.parse, ⟨970, 970⟩⟩
    let broken := Request.posting "/api/login"
      "\x7b\"username\": \"a\\nb\", \"password\": \"x\"\x7d"
    let spelled := Request.posting "/api/login"
      "\x7b\"username\": \"a\\\\nb\", \"password\": \"x\"\x7d"
    broken.Submits "username" "a\nb" ∧ (handle context broken).status = 401 ∧
    (handle context broken).log = [Handler.loginFailed "a\nb"] ∧
    (Handler.loginFailed "a\nb").message.IsPrintable ∧
    spelled.Submits "username" "a\\nb" ∧ (handle context spelled).log ≠ [] ∧
    ∀ record ∈ (handle context spelled).log,
      record.message ≠ (Handler.loginFailed "a\nb").message := by
  intro context broken spelled
  have hbroken : broken.Submits "username" "a\nb" := Request.submits_of_text 970 (by decide +kernel)
  have hspelled : spelled.Submits "username" "a\\nb" :=
    Request.submits_of_text 970 (by decide +kernel)
  have hstatus : (handle context broken).status = 401 := by
    decide +kernel
  have hrefused : (handle context spelled).log ≠ [] := by
    decide +kernel
  obtain ⟨hprintable, hforged⟩ := log_cannot_be_forged context broken
  obtain ⟨hlog, hother⟩ := hforged _ hbroken hstatus
  have hmessage := (hprintable (Handler.loginFailed "a\nb") (by rw [hlog]; simp)).1
  refine ⟨hbroken, hstatus, hlog, hmessage, hspelled, hrefused, ?_⟩
  intro record hrecord hsame
  have hname := (hother context spelled record hrecord hsame).2 _ hspelled
  exact absurd hname (by decide)

end Server

end SnippetReview
