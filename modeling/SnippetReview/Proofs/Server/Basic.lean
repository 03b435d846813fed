import SnippetReview.Proofs.Json.Limit
import SnippetReview.Server.Basic

/-!
What is asked of the service and what it says: requests that post to a route, the texts that they
submit, and the members of the JSON object in a response. A posted request gets the response of its
route, with headers for other origins; if its body is nested too deeply, it is the one to something
unforeseen.
-/

set_option autoImplicit false

namespace SnippetReview

namespace Request

def posting (path body : Text) : Request where
  method := "POST"
  target := path
  headers := [("Content-Type", "application/json")]
  body := body.flatMap CodePoint.utf8

/-- A request posts to a path if the path is what its target leads to once escapes are read. -/
structure Posts (request : Request) (path : Text) : Prop where
  method : request.method.upper = "POST"
  path : (Target.split request.target).decodedPath = path

theorem posts_posting {path : Text} (hpath : (Target.split path).decodedPath = path) (body : Text) :
    (posting path body).Posts path :=
  ⟨show (Text.ofString "POST").upper = "POST" by decide +kernel, hpath⟩

/-- A request holds a text under a name if its body is declared as JSON and is an object in which
the last member with the name is the text. -/
def Holds (request : Request) (name value : Text) : Prop :=
  request.declaresJson = true ∧ ∃ members, Json.ofBytes? request.body = some (.obj members) ∧
    (Json.obj members).member? name = some (.str value)

/-- What a request submits under a name: the text that it holds, or the empty text if it holds
none. -/
def Submits (request : Request) (name value : Text) : Prop :=
  request.Holds name value ∨ value = [] ∧ ∀ other, ¬ request.Holds name other

private theorem Holds.eq {request : Request} {name value other : Text}
    (h : request.Holds name value)
    (hother : request.Holds name other) : value = other := by
  obtain ⟨-, members, hread, hmember⟩ := h
  obtain ⟨-, members', hread', hmember'⟩ := hother
  rw [hread, Option.some.injEq, Json.obj.injEq] at hread'
  rw [← hread', hmember, Option.some.injEq, Json.str.injEq] at hmember'
  exact hmember'

/-- Every request submits just one text under a name. -/
theorem existsUnique_submits (request : Request) (name : Text) :
    ∃ value, request.Submits name value ∧ ∀ other, request.Submits name other → other = value := by
  by_cases h : ∃ value, request.Holds name value
  · obtain ⟨value, hvalue⟩ := h
    refine ⟨value, .inl hvalue, ?_⟩
    rintro other (hother | ⟨-, hnone⟩)
    · exact hother.eq hvalue
    · exact absurd hvalue (hnone value)
  · refine ⟨[], .inr ⟨rfl, not_exists.mp h⟩, ?_⟩
    rintro other (hother | ⟨rfl, -⟩)
    · exact absurd ⟨other, hother⟩ h
    · rfl

theorem Submits.eq {request : Request} {name value other : Text} (h : request.Submits name value)
    (hother : request.Submits name other) : value = other := by
  obtain ⟨text, -, hunique⟩ := existsUnique_submits request name
  rw [hunique value h, hunique other hother]

/-- A request is nested too deeply if its body is declared as JSON and its reader runs out of levels
before it has the value or can say what is wrong. -/
def TooDeep (limit : Nat) (request : Request) : Prop :=
  request.declaresJson = true ∧ Json.ofBytes limit request.body = .error .tooDeep

variable {limit : Nat} {request : Request} {submitted : Json} {name value : Text}

private theorem submission?_eq_none_iff :
    request.submission? limit = none ↔ request.TooDeep limit := by
  unfold submission? TooDeep
  by_cases hdeclared : request.declaresJson = true
  · rw [if_pos hdeclared, and_iff_right hdeclared]
    split
    · next hread => simp [hread]
    · next hread => simp [hread]
    · next hread => simp [hread]
    · next hread => simp [hread]
  · simp [hdeclared]

/-- Of the values that bytes stand for, those are nested too deeply that take more levels than there
are. -/
theorem tooDeep_iff_of_ofBytes? {json : Json} (hdeclared : request.declaresJson = true)
    (hread : Json.ofBytes? request.body = some json) :
    request.TooDeep limit ↔ limit + Json.complaintLevels < json.levels := by
  rw [TooDeep, and_iff_right hdeclared]
  cases houtcome : Json.ofBytes limit request.body with
  | ok other =>
    obtain ⟨hother, hlevels⟩ := Json.ofBytes_eq_ok_iff.mp houtcome
    rw [hread, Option.some.injEq] at hother
    simp [hother, hlevels]
  | error cause =>
    cases cause with
    | malformed => simp [Json.ofBytes?_eq_none_of_ofBytes_eq_malformed houtcome] at hread
    | tooDeep =>
      rw [iff_true_left rfl]
      refine Nat.lt_of_not_le fun hlevels => ?_
      rw [Json.ofBytes_eq_ok_iff.mpr ⟨hread, hlevels⟩] at houtcome
      cases houtcome

private theorem holds_iff_of_submission? (h : request.submission? limit = some submitted) :
    request.Holds name value ↔ (submitted.member? name).bind Json.str? = some value := by
  have hempty : ((Json.obj []).member? name).bind Json.str? = none := rfl
  unfold Holds
  unfold submission? at h
  by_cases hdeclared : request.declaresJson = true
  · rw [if_pos hdeclared] at h
    rw [and_iff_right hdeclared]
    split at h
    · next members hread =>
      cases h
      rw [(Json.ofBytes_eq_ok_iff.mp hread).1]
      cases hmember : (Json.obj members).member? name with
      | none => simp [hmember]
      | some found => cases found <;> simp [hmember, Json.str?]
    · next json hother hread =>
      cases h
      rw [(Json.ofBytes_eq_ok_iff.mp hread).1, hempty]
      simp only [Option.some.injEq, reduceCtorEq, iff_false]
      rintro ⟨members, rfl, -⟩
      exact hother members rfl
    · next hread =>
      cases h
      simp [Json.ofBytes?_eq_none_of_ofBytes_eq_malformed hread, hempty]
    · cases h
  · rw [if_neg hdeclared] at h
    cases h
    simp [hdeclared, hempty]

private theorem submits_text_of_submission? (h : request.submission? limit = some submitted) (name : Text) :
    request.Submits name (submitted.text name) := by
  unfold Submits Json.text
  simp only [holds_iff_of_submission? h]
  cases (submitted.member? name).bind Json.str? with
  | none => simp
  | some text => simp

/-- What a request submits can be seen with any limit that is enough for its body. -/
theorem submits_of_text (limit : Nat)
    (h : (request.submission? limit).map (·.text name) = some value) :
    request.Submits name value := by
  obtain ⟨submitted, hsubmitted, rfl⟩ := Option.map_eq_some_iff.mp h
  exact submits_text_of_submission? hsubmitted name

theorem not_tooDeep_iff :
    ¬ request.TooDeep limit ↔ (request.submission? limit).isSome = true := by
  rw [← submission?_eq_none_iff, ← ne_eq, Option.ne_none_iff_isSome]

/-- A body that opens more levels than the limit allows is nested too deeply, whatever follows. -/
theorem tooDeep_posting_replicate (path rest : Text) {n : Nat}
    (hn : limit + Json.complaintLevels < n) :
    (posting path (List.replicate n (CodePoint.ofChar '[') ++ rest)).TooDeep limit :=
  ⟨show (posting [] []).declaresJson = true by decide +kernel,
    Json.ofBytes_replicate_append hn rest⟩

end Request

namespace Handler

variable {limit : Nat} {request : Request} {answer : Json → Response}

private theorem onSubmission_of_tooDeep (h : request.TooDeep limit) :
    onSubmission limit request answer = .failure := by
  rw [onSubmission, Request.submission?_eq_none_iff.mpr h]

/-- A request that is not nested too deeply gets the answer to what it submits. -/
theorem exists_onSubmission_eq (h : ¬ request.TooDeep limit) :
    ∃ submitted, onSubmission limit request answer = answer submitted ∧
      ∀ name value, request.Submits name value → value = submitted.text name := by
  obtain ⟨submitted, hsubmitted⟩ := Option.isSome_iff_exists.mp (Request.not_tooDeep_iff.mp h)
  refine ⟨submitted, by rw [onSubmission, hsubmitted], fun name value hvalue => ?_⟩
  exact hvalue.eq (Request.submits_text_of_submission? hsubmitted name)

end Handler

namespace Response

def json? (response : Response) : Option Json :=
  match response.body with
  | .json value => some value
  | .page _ => none

def member? (response : Response) (name : Text) : Option Json :=
  response.json?.bind (Json.member? name)

def detail? (response : Response) (name : Text) : Option Json :=
  (response.member? "details").bind (Json.member? name)

@[simp] theorem status_object (status : Nat) (members : List (Text × Json))
    (log : List LogRecord) : (object status members log).status = status := rfl

@[simp] theorem status_refusal (status : Nat) (message : Text) (log : List LogRecord) :
    (refusal status message log).status = status := rfl

@[simp] theorem status_failure : failure.status = 500 := rfl

end Response

namespace Server

variable (context : Context) {request : Request} {path : Text} {route : Route}

private theorem respond_of_posts (hposts : request.Posts path)
    (hroute : Route.lookup path "POST" = .found route) :
    respond context request = serve context request route := by
  unfold respond
  simp only [hposts.method, hposts.path, hroute]

private theorem handle_of_posts (hposts : request.Posts path)
    (hroute : Route.lookup path "POST" = .found route) :
    handle context request = { serve context request route with
      headers := (serve context request route).headers ++
        Origin.headers context.settings.origins request } := by
  -- Only a request for headers loses the body, and no spelling of `POST` is one.
  have hmethod : request.method ≠ Text.ofString "HEAD" := by
    intro hhead
    have hupper : (Text.ofString "HEAD").upper ≠ "POST" := by decide +kernel
    exact hupper (hhead ▸ hposts.method)
  unfold handle
  rw [respond_of_posts context hposts hroute]
  exact if_neg hmethod

theorem exists_handle_analyze (hposts : request.Posts "/api/analyze") :
    ∃ headers, handle context request = { review context request with headers } := by
  have hroute : Route.lookup "/api/analyze" "POST" = .found .analyze := by decide +kernel
  have hserve : serve context request .analyze = review context request := by
    rw [serve, hposts.method]
    rfl
  rw [← hserve]
  exact ⟨_, handle_of_posts context hposts hroute⟩

theorem handle_login (hposts : request.Posts "/api/login") :
    handle context request = { exchange context request with
      headers := (exchange context request).headers ++
        Origin.headers context.settings.origins request } := by
  have hroute : Route.lookup "/api/login" "POST" = .found .login := by decide +kernel
  have hserve : serve context request .login = exchange context request := by
    rw [serve, hposts.method]
    rfl
  rw [← hserve]
  exact handle_of_posts context hposts hroute

theorem exists_handle_login (hposts : request.Posts "/api/login") :
    ∃ headers, handle context request = { exchange context request with headers } :=
  ⟨_, handle_login context hposts⟩

variable {context}

theorem review_of_tooDeep (h : request.TooDeep context.limits.nesting) :
    review context request = .failure :=
  Handler.onSubmission_of_tooDeep h

theorem exchange_of_tooDeep (h : request.TooDeep context.limits.nesting) :
    exchange context request = .failure :=
  Handler.onSubmission_of_tooDeep h

end Server

end SnippetReview
