import SnippetReview.Diagnostic

/-!
Verdicts: the answer to one submission.
-/

set_option autoImplicit false

namespace SnippetReview

/-- Whether a submission is right, what is wrong with it, and what else is said about it. -/
structure Verdict where
  isValid : Bool
  language : Text
  errors : List Diagnostic
  warnings : List Text
  guidance : List Text
  successMessage : Option Text
deriving DecidableEq

/-- The members of a verdict as JSON; only a success message that is set has a member. -/
def Verdict.toJson (verdict : Verdict) : Json :=
  .obj (Json.member "isValid" (.bool verdict.isValid) ::
    Json.member "language" (.str verdict.language) ::
    Json.member "errors" (.arr (verdict.errors.map Diagnostic.toJson)) ::
    Json.member "warnings" (.arr (verdict.warnings.map .str)) ::
    Json.member "guidance" (.arr (verdict.guidance.map .str)) ::
    Json.optionalMember "successMessage" (verdict.successMessage.map .str))

end SnippetReview
