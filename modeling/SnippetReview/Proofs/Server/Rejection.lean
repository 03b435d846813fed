import SnippetReview.Proofs.Server.Login

/-!
Logins that are refused. What is said about wrong credentials is fixed by the submitted name, and
what is said about missing ones is always the same: neither tells anything about the account.
-/

set_option autoImplicit false

namespace SnippetReview

def Response.withoutHeaders (response : Response) : Response :=
  { response with headers := [] }

namespace Handler.LoginAnswer

variable {settings : Settings} {now : Int} {username password : Text} {response : Response}

private theorem eq_of_status_eq_400 (h : LoginAnswer settings now username password response)
    (hstatus : response.status = 400) :
    response = .refusal 400 "Missing username or password" [] := by
  cases h with
  | missing => rfl
  | incomparable | wrong | unissuable | issued => cases hstatus

private theorem eq_of_status_eq_401 (h : LoginAnswer settings now username password response)
    (hstatus : response.status = 401) :
    response = .refusal 401 "Invalid credentials" [loginFailed username] := by
  cases h with
  | wrong => rfl
  | missing | incomparable | unissuable | issued => cases hstatus

end Handler.LoginAnswer

namespace Server

/-- Two requests come from pages of the same origin, or from none, to services that allow the same
origins. -/
structure SameOrigin (context other : Context) (request second : Request) : Prop where
  allowed : context.settings.origins = other.settings.origins
  origin : request.headers.get? "Origin" = second.headers.get? "Origin"

variable {context other : Context} {request second : Request} {path : Text}

private theorem SameOrigin.headers_eq (h : SameOrigin context other request second)
    (hposts : request.Posts path) (hsecond : second.Posts path) :
    Origin.headers context.settings.origins request =
      Origin.headers other.settings.origins second := by
  have hoptions : Text.ofString "POST" ≠ Text.ofString "OPTIONS" := by decide
  have hallowed : Origin.allowed? context.settings.origins request.headers =
      Origin.allowed? other.settings.origins second.headers := by
    rw [Origin.allowed?, Origin.allowed?, h.allowed, h.origin]
  unfold Origin.headers
  rw [hallowed, h.allowed, hposts.method, hsecond.method, if_neg hoptions, if_neg hoptions]

private theorem exchange_of_status_eq_400 (hstatus : (exchange context request).status = 400) :
    exchange context request = .refusal 400 "Missing username or password" [] := by
  rcases @exchange_cases context request with hfailure | ⟨username, password, -, hanswer⟩
  · rw [hfailure] at hstatus
    cases hstatus
  · exact hanswer.eq_of_status_eq_400 hstatus

private theorem exchange_of_status_eq_401 {username : Text}
    (hname : request.Submits "username" username)
    (hstatus : (exchange context request).status = 401) :
    exchange context request =
      .refusal 401 "Invalid credentials" [Handler.loginFailed username] := by
  rcases @exchange_cases context request with hfailure | ⟨submitted, password, huser, hanswer⟩
  · rw [hfailure] at hstatus
    cases hstatus
  · rw [hname.eq huser]
    exact hanswer.eq_of_status_eq_401 hstatus

private theorem handle_eq_of_exchange_eq (hposts : request.Posts "/api/login")
    (hsecond : second.Posts "/api/login")
    (hanswer : exchange context request = exchange other second) :
    (handle context request).withoutHeaders = (handle other second).withoutHeaders ∧
      (SameOrigin context other request second → handle context request = handle other second) := by
  rw [handle_login context hposts, handle_login other hsecond, hanswer]
  refine ⟨rfl, fun horigin => ?_⟩
  rw [horigin.headers_eq hposts hsecond]

private theorem status_handle_login (hposts : request.Posts "/api/login") :
    (handle context request).status = (exchange context request).status := by
  rw [handle_login context hposts]

private theorem log_handle_login (hposts : request.Posts "/api/login") :
    (handle context request).log = (exchange context request).log := by
  rw [handle_login context hposts]

/-- What a refused login tells. Under any two settings and at any two times, wrong credentials with
the same name get the same response and the same record in the log, whatever the passwords are and
whether the name or the password is wrong. Missing credentials always get the same response, and
nothing is logged. Only the headers for other origins depend on more: on the origins that are
allowed, and on the one of the request. -/
theorem rejection_reveals_nothing (context other : Context) {request second : Request}
    (hposts : request.Posts "/api/login") (hsecond : second.Posts "/api/login") :
    let response := handle context request
    let answer := handle other second
    (∀ username : Text, request.Submits "username" username → second.Submits "username" username →
      response.status = 401 → answer.status = 401 →
        response.withoutHeaders = answer.withoutHeaders ∧ response.log = answer.log ∧
          (SameOrigin context other request second → response = answer)) ∧
    (response.status = 400 → answer.status = 400 →
      response.withoutHeaders = answer.withoutHeaders ∧ response.log = [] ∧ answer.log = [] ∧
        (SameOrigin context other request second → response = answer)) := by
  intro response answer
  have hstatus : response.status = _ := status_handle_login hposts
  have hstatus' : answer.status = _ := status_handle_login hsecond
  have hlog : response.log = _ := log_handle_login hposts
  have hlog' : answer.log = _ := log_handle_login hsecond
  rw [hstatus, hstatus', hlog, hlog']
  constructor
  · intro username hname hname' hrefused hrefused'
    have hanswer : exchange context request = exchange other second := by
      rw [exchange_of_status_eq_401 hname hrefused, exchange_of_status_eq_401 hname' hrefused']
    obtain ⟨hbare, hwhole⟩ := handle_eq_of_exchange_eq hposts hsecond hanswer
    exact ⟨hbare, by rw [hanswer], hwhole⟩
  · intro hmissing hmissing'
    have hnone := exchange_of_status_eq_400 hmissing
    have hnone' := exchange_of_status_eq_400 hmissing'
    obtain ⟨hbare, hwhole⟩ := handle_eq_of_exchange_eq hposts hsecond (hnone.trans hnone'.symm)
    refine ⟨hbare, ?_, ?_, hwhole⟩
    · rw [hnone]
      rfl
    · rw [hnone']
      rfl

/-- A wrong password for the account, and the password of an account of another name; then a login
without a password, and one without anything. -/
theorem rejection_reveals_nothing_of_two_accounts :
    let context : Context := ⟨Settings.default, 1700000000, Script.parse, ⟨970, 970⟩⟩
    let settings := { Settings.default with
      adminUser := "root", authSecret := "s", tokenLifetime := 1 }
    let other : Context := ⟨settings, 0, Script.parse, ⟨970, 970⟩⟩
    let request := Request.posting "/api/login"
      "\x7b\"username\": \"cogz\", \"password\": \"x\"\x7d"
    let second := Request.posting "/api/login"
      "\x7b\"password\": \"cogz\", \"username\": \"cogz\"\x7d"
    let nameless := Request.posting "/api/login" "\x7b\"username\": \"cogz\"\x7d"
    let empty := Request.posting "/api/login" "[]"
    ((handle context request).status = 401 ∧
      handle context request = handle other second) ∧
    (handle context nameless).status = 400 ∧ handle context nameless = handle other empty ∧
      (handle context nameless).log = [] := by
  intro context settings other request second nameless empty
  have hposts : ∀ body : Text, (Request.posting "/api/login" body).Posts "/api/login" :=
    Request.posts_posting (by decide +kernel)
  have horigin : ∀ body more : Text, SameOrigin context other
      (Request.posting "/api/login" body) (Request.posting "/api/login" more) :=
    fun _ _ => ⟨rfl, rfl⟩
  have hname : request.Submits "username" "cogz" := Request.submits_of_text 970 (by decide +kernel)
  have hname' : second.Submits "username" "cogz" := Request.submits_of_text 970 (by decide +kernel)
  have hrefused : (handle context request).status = 401 := by decide +kernel
  have hrefused' : (handle other second).status = 401 := by decide +kernel
  have hmissing : (handle context nameless).status = 400 := by decide +kernel
  have hmissing' : (handle other empty).status = 400 := by decide +kernel
  obtain ⟨hwrong, -⟩ := rejection_reveals_nothing context other (hposts _ : request.Posts _)
    (hposts _ : second.Posts _)
  obtain ⟨-, hnone⟩ := rejection_reveals_nothing context other (hposts _ : nameless.Posts _)
    (hposts _ : empty.Posts _)
  obtain ⟨-, -, hsame⟩ := hwrong _ hname hname' hrefused hrefused'
  obtain ⟨-, hlog, -, hsame'⟩ := hnone hmissing hmissing'
  exact ⟨⟨hrefused, hsame (horigin _ _)⟩, hmissing, hsame' (horigin _ _), hlog⟩

end Server

end SnippetReview
