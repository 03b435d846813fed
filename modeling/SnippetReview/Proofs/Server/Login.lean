import Mathlib.Algebra.Group.Int.Defs
import SnippetReview.Proofs.Server.Basic
import SnippetReview.Proofs.Token.Issue
import SnippetReview.Script.Parse

/-!
The exchange of credentials for a token over the service. An answer to credentials that can be read
is one of five, fixed by the credentials, the settings and the time; only the credentials of the
account get a token, and it is a token for the account.
-/

set_option autoImplicit false

namespace SnippetReview

namespace Handler

structure Comparable (settings : Settings) (username password : Text) : Prop where
  username : username.IsEncodable
  adminUser : settings.adminUser.IsEncodable
  password : password.IsEncodable
  adminPass : settings.adminPass.IsEncodable

def AreAccount (settings : Settings) (username password : Text) : Prop :=
  username = settings.adminUser ∧ password = settings.adminPass

variable {settings : Settings} {now : Int} {username password : Text}

instance : Decidable (AreAccount settings username password) :=
  inferInstanceAs (Decidable (_ ∧ _))

theorem comparable_iff (hadminUser : settings.adminUser.IsEncodable)
    (hadminPass : settings.adminPass.IsEncodable) : Comparable settings username password ↔
      ¬ ∃ c ∈ username ++ password, c.isSurrogate = true := by
  rw [← Text.not_isEncodable_iff, not_not]
  constructor
  · rintro ⟨huser, -, hpass, -⟩ c hc
    rcases List.mem_append.mp hc with hc | hc
    · exact huser c hc
    · exact hpass c hc
  · intro hboth
    have huser : username.IsEncodable := fun c hc => hboth c (List.mem_append_left _ hc)
    have hpass : password.IsEncodable := fun c hc => hboth c (List.mem_append_right _ hc)
    exact ⟨huser, hadminUser, hpass, hadminPass⟩

private theorem credentialsMatch_eq_ok_iff {answer : Bool} :
    credentialsMatch settings username password = .ok answer ↔
      Comparable settings username password ∧
        answer = decide (AreAccount settings username password) := by
  -- Bytes are compared, which tells the same texts apart as the texts themselves do.
  have hinj : ∀ text other : Text, (text.flatMap CodePoint.utf8 == other.flatMap CodePoint.utf8) =
      decide (text = other) := by
    intro text other
    rw [beq_eq_decide]
    exact decide_eq_decide.mpr Utf8.flatMap_utf8_injective.eq_iff
  have haccount : (decide (username = settings.adminUser) &&
      decide (password = settings.adminPass)) = decide (AreAccount settings username password) :=
    (Bool.decide_and _ _).symm
  unfold credentialsMatch
  simp only [Utf8.encode_bind_eq_ok_iff, hinj, haccount]
  constructor
  · rintro ⟨huser, hadminUser, hpass, hadminPass, hanswer⟩
    cases hanswer
    exact ⟨⟨huser, hadminUser, hpass, hadminPass⟩, rfl⟩
  · rintro ⟨⟨huser, hadminUser, hpass, hadminPass⟩, rfl⟩
    exact ⟨huser, hadminUser, hpass, hadminPass, rfl⟩

/-- The answers to credentials. From the second on neither the name nor the password is empty. -/
inductive LoginAnswer (settings : Settings) (now : Int) (username password : Text) :
    Response → Prop
  | missing (hmissing : ¬ (username ≠ [] ∧ password ≠ [])) :
    LoginAnswer settings now username password (.refusal 400 "Missing username or password" [])
  | incomparable (hgiven : username ≠ [] ∧ password ≠ [])
    (hcomparable : ¬ Comparable settings username password) :
    LoginAnswer settings now username password .failure
  | wrong (hgiven : username ≠ [] ∧ password ≠ [])
    (hcomparable : Comparable settings username password)
    (hother : ¬ AreAccount settings username password) :
    LoginAnswer settings now username password
      (.refusal 401 "Invalid credentials" [loginFailed username])
  | unissuable (hgiven : username ≠ [] ∧ password ≠ [])
    (hcomparable : Comparable settings username password)
    (haccount : AreAccount settings username password)
    (hissue : ¬ ∃ token,
      Token.issue username settings.authSecret settings.tokenLifetime now = .ok token) :
    LoginAnswer settings now username password .failure
  | issued (hgiven : username ≠ [] ∧ password ≠ [])
    (hcomparable : Comparable settings username password)
    (haccount : AreAccount settings username password) {token : Text}
    (hissue : Token.issue username settings.authSecret settings.tokenLifetime now = .ok token) :
    LoginAnswer settings now username password
      (.object 200 [Json.member "ok" (.bool true), Json.member "token" (.str token)] [])

private theorem loginAnswer_login (settings : Settings) (now : Int) (submitted : Json) :
    LoginAnswer settings now (submitted.text "username") (submitted.text "password")
      (login settings now submitted) := by
  unfold login
  simp only
  split
  · next hmissing =>
    apply LoginAnswer.missing
    rw [not_and_or, not_not, not_not]
    simpa using hmissing
  · next hgiven =>
    have hgiven : submitted.text "username" ≠ [] ∧ submitted.text "password" ≠ [] := by
      simpa using hgiven
    cases hmatch : credentialsMatch settings (submitted.text "username")
        (submitted.text "password") with
    | error run =>
      -- Had the four texts bytes, the comparison would have had a result.
      apply LoginAnswer.incomparable hgiven
      intro hcomparable
      have hok := credentialsMatch_eq_ok_iff.mpr ⟨hcomparable, rfl⟩
      rw [hmatch] at hok
      cases hok
    | ok answer =>
      obtain ⟨hcomparable, hanswer⟩ := credentialsMatch_eq_ok_iff.mp hmatch
      cases answer with
      | false => exact .wrong hgiven hcomparable (of_decide_eq_false hanswer.symm)
      | true =>
        have haccount := of_decide_eq_true hanswer.symm
        cases hissue : Token.issue (submitted.text "username") settings.authSecret
            settings.tokenLifetime now with
        | error cause => exact .unissuable hgiven hcomparable haccount (by simp [hissue])
        | ok token => exact .issued hgiven hcomparable haccount hissue

namespace LoginAnswer

variable {response : Response}

private theorem status_eq_400_iff (h : LoginAnswer settings now username password response) :
    response.status = 400 ↔ username = [] ∨ password = [] := by
  have hempty : ¬ (username ≠ [] ∧ password ≠ []) ↔ username = [] ∨ password = [] := by
    rw [not_and_or, not_not, not_not]
  rw [← hempty]
  cases h with
  | missing hmissing => simp [hmissing]
  | incomparable hgiven | wrong hgiven | unissuable hgiven | issued hgiven => simp [hgiven]

private theorem status_eq_401_iff (h : LoginAnswer settings now username password response) :
    response.status = 401 ↔ (username ≠ [] ∧ password ≠ []) ∧
      Comparable settings username password ∧ ¬ AreAccount settings username password := by
  cases h with
  | missing hmissing => simp [hmissing]
  | incomparable _ hcomparable => simp [hcomparable]
  | wrong hgiven hcomparable hother => simp [hgiven, hcomparable, hother]
  | unissuable _ _ haccount | issued _ _ haccount => simp [haccount]

private theorem status_eq_200_iff (h : LoginAnswer settings now username password response) :
    response.status = 200 ↔ (username ≠ [] ∧ password ≠ []) ∧
      Comparable settings username password ∧ AreAccount settings username password ∧
        ∃ token, Token.issue username settings.authSecret settings.tokenLifetime now =
          .ok token := by
  cases h with
  | missing hmissing => simp [hmissing]
  | incomparable _ hcomparable => simp [hcomparable]
  | wrong _ _ hother => simp [hother]
  | unissuable _ _ _ hissue => simp [hissue]
  | issued hgiven hcomparable haccount hissue => simp [hgiven, hcomparable, haccount, hissue]

theorem status_eq_500_iff (h : LoginAnswer settings now username password response) :
    response.status = 500 ↔ (username ≠ [] ∧ password ≠ []) ∧
      (Comparable settings username password → AreAccount settings username password ∧
        ¬ ∃ token, Token.issue username settings.authSecret settings.tokenLifetime now =
          .ok token) := by
  cases h with
  | missing hmissing => simp [hmissing]
  | incomparable hgiven hcomparable => simp [hgiven, hcomparable]
  | wrong _ hcomparable hother => simp [hcomparable, hother]
  | unissuable hgiven _ haccount hissue => simp [hgiven, haccount, hissue]
  | issued _ hcomparable _ hissue => simp [hcomparable, hissue]

private theorem token_eq_none (h : LoginAnswer settings now username password response)
    (hstatus : response.status ≠ 200) : response.member? "token" = none := by
  cases h with
  | missing | incomparable | wrong | unissuable => rfl
  | issued => exact absurd rfl hstatus

private theorem exists_token (h : LoginAnswer settings now username password response)
    (hstatus : response.status = 200) :
    ∃ token, Token.issue username settings.authSecret settings.tokenLifetime now = .ok token ∧
      response.member? "token" = some (.str token) := by
  cases h with
  | missing | incomparable | wrong | unissuable => simp at hstatus
  | issued _ _ _ hissue => exact ⟨_, hissue, rfl⟩

private theorem status_eq_200_iff_of_given (h : LoginAnswer settings now username password response)
    (hgiven : username ≠ [] ∧ password ≠ []) (huser : username.IsEncodable)
    (hpass : password.IsEncodable) :
    response.status = 200 ↔ AreAccount settings username password ∧
      settings.authSecret.IsEncodable ∧ Numeral.writable now = true ∧
        Numeral.writable (now + settings.tokenLifetime) = true := by
  rw [h.status_eq_200_iff, Token.exists_issue_eq_ok_iff]
  constructor
  · rintro ⟨-, -, haccount, hissue⟩
    exact ⟨haccount, hissue⟩
  · rintro ⟨haccount, hissue⟩
    have hcomparable : Comparable settings username password :=
      ⟨huser, haccount.1 ▸ huser, hpass, haccount.2 ▸ hpass⟩
    exact ⟨hgiven, hcomparable, haccount, hissue⟩

private theorem status_eq_401_iff_of_given (h : LoginAnswer settings now username password response)
    (hgiven : username ≠ [] ∧ password ≠ []) (huser : username.IsEncodable)
    (hpass : password.IsEncodable) :
    response.status = 401 ↔ ¬ AreAccount settings username password ∧
      settings.adminUser.IsEncodable ∧ settings.adminPass.IsEncodable := by
  rw [h.status_eq_401_iff]
  constructor
  · rintro ⟨-, hcomparable, hother⟩
    exact ⟨hother, hcomparable.adminUser, hcomparable.adminPass⟩
  · rintro ⟨hother, hadminUser, hadminPass⟩
    exact ⟨hgiven, ⟨huser, hadminUser, hpass, hadminPass⟩, hother⟩

private theorem exists_claims (h : LoginAnswer settings now username password response)
    (huser : username.IsEncodable) (hstatus : response.status = 200) :
    ∃ token claims issuedAt expiry,
      Token.issue username settings.authSecret settings.tokenLifetime now = .ok token ∧
      response.member? "token" = some (.str token) ∧ Token.claims? token = some claims ∧
      claims.member? "sub" = some (.str settings.adminUser) ∧
      claims.member? "iat" = some (.int issuedAt) ∧ claims.member? "exp" = some (.int expiry) ∧
      issuedAt = now ∧ expiry - issuedAt = settings.tokenLifetime := by
  obtain ⟨-, -, haccount, -⟩ := h.status_eq_200_iff.mp hstatus
  obtain ⟨token, hissue, htoken⟩ := h.exists_token hstatus
  have hclaims := Token.claims?_of_issue huser hissue
  have hlifetime : now + settings.tokenLifetime - now = settings.tokenLifetime := by omega
  rw [haccount.1] at hclaims
  exact ⟨token, _, _, _, hissue, htoken, hclaims, rfl, rfl, rfl, rfl, hlifetime⟩

private theorem status_ne_200_of_empty (h : LoginAnswer settings now username password response)
    (hempty : settings.adminUser = [] ∨ settings.adminPass = []) : response.status ≠ 200 := by
  intro hstatus
  obtain ⟨⟨huser, hpass⟩, -, haccount, -⟩ := h.status_eq_200_iff.mp hstatus
  rcases hempty with hadmin | hadmin
  · exact huser (haccount.1.trans hadmin)
  · exact hpass (haccount.2.trans hadmin)

end LoginAnswer

end Handler

namespace Server

theorem loginAnswer_exchange {context : Context} {request : Request} {username password : Text}
    (hread : ¬ request.TooDeep context.limits.nesting) (huser : request.Submits "username" username)
    (hpass : request.Submits "password" password) :
    Handler.LoginAnswer context.settings context.now username password
      (exchange context request) := by
  obtain ⟨submitted, hanswer, htext⟩ := Handler.exists_onSubmission_eq hread
  rw [htext _ _ huser, htext _ _ hpass, exchange, hanswer]
  exact Handler.loginAnswer_login ..

/-- Credentials that are read get an answer. -/
theorem exchange_cases {context : Context} {request : Request} :
    exchange context request = .failure ∨
    ∃ username password, request.Submits "username" username ∧
      Handler.LoginAnswer context.settings context.now username password
        (exchange context request) := by
  by_cases hdeep : request.TooDeep context.limits.nesting
  · exact .inl (exchange_of_tooDeep hdeep)
  · obtain ⟨username, huser, -⟩ := request.existsUnique_submits "username"
    obtain ⟨password, hpass, -⟩ := request.existsUnique_submits "password"
    exact .inr ⟨username, password, huser, loginAnswer_exchange hdeep huser hpass⟩

/-- Settings under which the service fails: a name or a password of the account that has no bytes,
when it is compared with credentials that have, a secret without bytes, and a lifetime that makes
the time of expiry too long to be written. A byte of the environment that is no text is read as a
surrogate. -/
theorem login_fails_under_unusable_settings :
    let lone : Text := [⟨0xDC80, by decide⟩]
    let status (settings : Settings) (request : Request) : Nat :=
      (handle ⟨settings, 1700000000, Script.parse, ⟨970, 970⟩⟩ request).status
    let request := Request.posting "/api/login"
      "\x7b\"username\": \"cogz\", \"password\": \"cogz\"\x7d"
    request.Posts "/api/login" ∧ request.Submits "username" "cogz" ∧
      request.Submits "password" "cogz" ∧ (Text.ofString "cogz").IsEncodable ∧
      Text.ofString "cogz" ≠ lone ∧
      status { Settings.default with adminUser := lone } request = 500 ∧
      status { Settings.default with adminPass := lone } request = 500 ∧
      Settings.default.adminUser = "cogz" ∧ Settings.default.adminPass = "cogz" ∧
      status { Settings.default with authSecret := lone } request = 500 ∧
      status { Settings.default with tokenLifetime := 10 ^ 4300 - 1 } request = 500 := by
  intro lone status request
  refine ⟨Request.posts_posting (by decide +kernel) _,
    Request.submits_of_text 970 (by decide +kernel),
    Request.submits_of_text 970 (by decide +kernel), by decide, by decide, ?_, ?_, rfl, rfl, ?_, ?_⟩
  · decide +kernel
  · decide +kernel
  · decide +kernel
  · decide +kernel

/-- What the service answers to posted credentials that it can read and that have bytes. They are
missing exactly if one of them is empty. Those of the account get a token for the account with the
lifetime of the settings, provided that the secret has bytes and both times can be written. Other
ones are refused, provided that those of the account have bytes. An answer that is no success holds
no token, so that under an empty name or password of the account no request gets one. -/
theorem token_only_for_account (context : Context) {request : Request}
    (hposts : request.Posts "/api/login") :
    let settings := context.settings
    let response := handle context request
    (¬ request.TooDeep context.limits.nesting → ∀ username password : Text,
      request.Submits "username" username → request.Submits "password" password →
      username.IsEncodable → password.IsEncodable →
      (response.status = 400 ↔ username = [] ∨ password = []) ∧
      (username ≠ [] → password ≠ [] →
        (response.status = 200 ↔
          (username = settings.adminUser ∧ password = settings.adminPass) ∧
            settings.authSecret.IsEncodable ∧ Numeral.writable context.now = true ∧
              Numeral.writable (context.now + settings.tokenLifetime) = true) ∧
        (response.status = 401 ↔
          ¬ (username = settings.adminUser ∧ password = settings.adminPass) ∧
            settings.adminUser.IsEncodable ∧ settings.adminPass.IsEncodable)) ∧
      (response.status = 200 → ∃ token claims issuedAt expiry,
        Token.issue username settings.authSecret settings.tokenLifetime context.now = .ok token ∧
        response.member? "token" = some (.str token) ∧ Token.claims? token = some claims ∧
        claims.member? "sub" = some (.str settings.adminUser) ∧
        claims.member? "iat" = some (.int issuedAt) ∧
        claims.member? "exp" = some (.int expiry) ∧ issuedAt = context.now ∧
        expiry - issuedAt = settings.tokenLifetime)) ∧
    (response.status ≠ 200 → response.member? "token" = none) ∧
    (settings.adminUser = [] ∨ settings.adminPass = [] →
      response.status ≠ 200 ∧ response.member? "token" = none) := by
  obtain ⟨headers, hhandle⟩ := exists_handle_login context hposts
  intro settings response
  have hresponse : response = { exchange context request with headers } := hhandle
  rw [hresponse]
  by_cases hdeep : request.TooDeep context.limits.nesting
  · rw [exchange_of_tooDeep hdeep]
    exact ⟨absurd hdeep, fun _ => rfl, fun _ => ⟨nofun, rfl⟩⟩
  refine ⟨fun _ => ?_, ?_⟩
  · intro username password hsubmitted hsubmitted' huser hpass
    have hanswer := loginAnswer_exchange hdeep hsubmitted hsubmitted'
    refine ⟨hanswer.status_eq_400_iff, ?_, hanswer.exists_claims huser⟩
    intro huserGiven hpassGiven
    exact ⟨hanswer.status_eq_200_iff_of_given ⟨huserGiven, hpassGiven⟩ huser hpass,
      hanswer.status_eq_401_iff_of_given ⟨huserGiven, hpassGiven⟩ huser hpass⟩
  · obtain ⟨username, hsubmitted, -⟩ := request.existsUnique_submits "username"
    obtain ⟨password, hsubmitted', -⟩ := request.existsUnique_submits "password"
    have hanswer := loginAnswer_exchange hdeep hsubmitted hsubmitted'
    refine ⟨hanswer.token_eq_none, fun hempty => ?_⟩
    have hstatus := hanswer.status_ne_200_of_empty hempty
    exact ⟨hstatus, hanswer.token_eq_none hstatus⟩

/-- The account, with its name given twice, gets a token; under an empty password nothing does. -/
theorem token_only_for_account_of_default_account :
    let context : Context := ⟨Settings.default, 1700000000, Script.parse, ⟨970, 970⟩⟩
    let passwordless : Context :=
      ⟨{ Settings.default with adminPass := [] }, 1700000000, Script.parse, ⟨970, 970⟩⟩
    let request := Request.posting "/api/login"
      "\x7b\"username\": 7, \"password\": \"\\u0063ogz\", \"username\": \"cogz\"\x7d"
    request.Posts "/api/login" ∧ request.Submits "username" "cogz" ∧
      request.Submits "password" "cogz" ∧ (Text.ofString "cogz").IsEncodable ∧
      (handle context request).status = 200 ∧
      (∃ token claims, (handle context request).member? "token" = some (.str token) ∧
        Token.claims? token = some claims ∧ claims.member? "sub" = some (.str "cogz") ∧
        claims.member? "iat" = some (.int 1700000000)) ∧
      (handle passwordless request).member? "token" = none := by
  intro context passwordless request
  have hposts : request.Posts "/api/login" := Request.posts_posting (by decide +kernel) _
  have hread : ¬ request.TooDeep 970 := Request.not_tooDeep_iff.mpr (by decide +kernel)
  have huser : request.Submits "username" "cogz" := Request.submits_of_text 970 (by decide +kernel)
  have hpass : request.Submits "password" "cogz" := Request.submits_of_text 970 (by decide +kernel)
  have hbytes : (Text.ofString "cogz").IsEncodable := by decide
  obtain ⟨haccount, -, -⟩ := token_only_for_account context hposts
  obtain ⟨-, hgiven, htoken⟩ := haccount hread _ _ huser hpass hbytes hbytes
  have hstatus : (handle context request).status = 200 := by
    refine (hgiven (by decide) (by decide)).1.mpr ⟨⟨rfl, rfl⟩, ?_, ?_, ?_⟩
    · decide
    · exact Numeral.writable_iff.mpr (by decide +kernel)
    · exact Numeral.writable_iff.mpr (by decide +kernel)
  obtain ⟨token, claims, issuedAt, expiry, -, hmember, hclaims, hsub, hissued, -, rfl, -⟩ :=
    htoken hstatus
  refine ⟨hposts, huser, hpass, hbytes, hstatus,
    ⟨token, claims, hmember, hclaims, hsub, hissued⟩, ?_⟩
  exact ((token_only_for_account passwordless hposts).2.2 (.inr rfl)).2

end Server

end SnippetReview
