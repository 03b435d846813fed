import SnippetReview.Proofs.Json.Dictionary
import SnippetReview.Verdict

/-!
Diagnostics and verdicts as dictionaries: nothing is lost in them. What is not set has no member,
which is different from a number that is zero and from a text that is empty.
-/

set_option autoImplicit false

namespace SnippetReview

namespace Diagnostic

def fields (diagnostic : Diagnostic) : List (Text × Option Json) := [
  ("message", some (.str diagnostic.message)), ("severity", some (.str diagnostic.severity)),
  ("line", diagnostic.line.map .int), ("column", diagnostic.column.map .int),
  ("hint", diagnostic.hint.map .str)]

def ofJson? (value : Json) : Option Diagnostic := do
  let message ← (value.member? "message").bind Json.str?
  let severity ← (value.member? "severity").bind Json.str?
  let line ← (value.member? "line").mapM Json.int?
  let column ← (value.member? "column").mapM Json.int?
  let hint ← (value.member? "hint").mapM Json.str?
  return ⟨message, severity, line, column, hint⟩

private theorem nodup_fields (diagnostic : Diagnostic) :
    (diagnostic.fields.map Prod.fst).Nodup := by
  -- the names are the same for every diagnostic, so this is about one list
  change (["message", "severity", "line", "column", "hint"] : List Text).Nodup
  decide

private theorem toJson_eq (diagnostic : Diagnostic) :
    diagnostic.toJson = .obj (Json.setMembers diagnostic.fields) := by
  simp [toJson, Json.setMembers, fields, Json.optionalMember]

private theorem member?_toJson_eq (diagnostic : Diagnostic) (name : Text) :
    diagnostic.toJson.member? name = (diagnostic.fields.lookup name).join := by
  rw [toJson_eq, Json.member?_setMembers diagnostic.nodup_fields]

private theorem ofJson?_toJson (diagnostic : Diagnostic) :
    ofJson? diagnostic.toJson = some diagnostic := by
  have hmessage : diagnostic.toJson.member? "message" = some (.str diagnostic.message) :=
    member?_toJson_eq diagnostic _
  have hseverity : diagnostic.toJson.member? "severity" = some (.str diagnostic.severity) :=
    member?_toJson_eq diagnostic _
  have hline : diagnostic.toJson.member? "line" = diagnostic.line.map .int :=
    member?_toJson_eq diagnostic _
  have hcolumn : diagnostic.toJson.member? "column" = diagnostic.column.map .int :=
    member?_toJson_eq diagnostic _
  have hhint : diagnostic.toJson.member? "hint" = diagnostic.hint.map .str :=
    member?_toJson_eq diagnostic _
  rw [ofJson?, hmessage, hseverity, hline, hcolumn, hhint, Json.mapM_map_option Json.int?_int,
    Json.mapM_map_option Json.int?_int, Json.mapM_map_option Json.str?_str]
  rfl

private theorem ofJson?_eq_of_sameAs {value other : Json} (h : value.SameAs other) :
    ofJson? value = ofJson? other := by
  have htext := h.bind_member?_eq Json.SameAs.str?_eq
  have hnumber := h.mapM_member?_eq Json.SameAs.int?_eq
  rw [ofJson?, ofJson?, htext, htext, hnumber, hnumber, h.mapM_member?_eq Json.SameAs.str?_eq]

private theorem isLossless : Json.IsLossless toJson ofJson? :=
  .of_sameAs ofJson?_toJson ofJson?_eq_of_sameAs

private theorem exists_member?_toJson (diagnostic : Diagnostic) (name : Text) :
    (∃ value, diagnostic.toJson.member? name = some value) ↔
      name = "message" ∨ name = "severity" ∨ name = "line" ∧ diagnostic.line ≠ none ∨
        name = "column" ∧ diagnostic.column ≠ none ∨ name = "hint" ∧ diagnostic.hint ≠ none := by
  rw [toJson_eq, Json.exists_member?_setMembers diagnostic.nodup_fields]
  simp only [fields, List.mem_cons, List.not_mem_nil, or_false, Prod.mk.injEq, exists_or,
    exists_and_left, Json.exists_some_eq_map, Option.some.injEq, exists_eq, and_true]

/-- A line that is zero is set. -/
example : (Diagnostic.mk "" "" (some 0) none none).toJson.member? "line" = some (.int 0) := rfl

end Diagnostic

namespace Verdict

def fields (verdict : Verdict) : List (Text × Option Json) := [
  ("isValid", some (.bool verdict.isValid)), ("language", some (.str verdict.language)),
  ("errors", some (.arr (verdict.errors.map Diagnostic.toJson))),
  ("warnings", some (.arr (verdict.warnings.map .str))),
  ("guidance", some (.arr (verdict.guidance.map .str))),
  ("successMessage", verdict.successMessage.map .str)]

def ofJson? (value : Json) : Option Verdict := do
  let isValid ← (value.member? "isValid").bind Json.bool?
  let language ← (value.member? "language").bind Json.str?
  let errors ← (value.member? "errors").bind (Json.listOf? Diagnostic.ofJson?)
  let warnings ← (value.member? "warnings").bind (Json.listOf? Json.str?)
  let guidance ← (value.member? "guidance").bind (Json.listOf? Json.str?)
  let successMessage ← (value.member? "successMessage").mapM Json.str?
  return ⟨isValid, language, errors, warnings, guidance, successMessage⟩

private theorem nodup_fields (verdict : Verdict) : (verdict.fields.map Prod.fst).Nodup := by
  change (["isValid", "language", "errors", "warnings", "guidance", "successMessage"] :
    List Text).Nodup
  decide

private theorem toJson_eq (verdict : Verdict) :
    verdict.toJson = .obj (Json.setMembers verdict.fields) := by
  simp [toJson, Json.setMembers, fields, Json.optionalMember]

theorem member?_toJson_eq (verdict : Verdict) (name : Text) :
    verdict.toJson.member? name = (verdict.fields.lookup name).join := by
  rw [toJson_eq, Json.member?_setMembers verdict.nodup_fields]

theorem member?_errors (verdict : Verdict) : verdict.toJson.member? "errors" =
    some (.arr (verdict.errors.map Diagnostic.toJson)) :=
  verdict.member?_toJson_eq _

private theorem member?_warnings (verdict : Verdict) :
    verdict.toJson.member? "warnings" = some (.arr (verdict.warnings.map .str)) :=
  verdict.member?_toJson_eq _

theorem member?_guidance (verdict : Verdict) :
    verdict.toJson.member? "guidance" = some (.arr (verdict.guidance.map .str)) :=
  verdict.member?_toJson_eq _

private theorem ofJson?_toJson (verdict : Verdict) : ofJson? verdict.toJson = some verdict := by
  have hvalid : verdict.toJson.member? "isValid" = some (.bool verdict.isValid) :=
    member?_toJson_eq verdict _
  have hlanguage : verdict.toJson.member? "language" = some (.str verdict.language) :=
    member?_toJson_eq verdict _
  have hsuccess : verdict.toJson.member? "successMessage" = verdict.successMessage.map .str :=
    member?_toJson_eq verdict _
  -- the errors are read one level down, where the same is known of each diagnostic
  rw [ofJson?, hvalid, hlanguage, member?_errors, member?_warnings, member?_guidance, hsuccess,
    Json.mapM_map_option Json.str?_str]
  simp only [Option.bind_some, Json.listOf?_map Diagnostic.ofJson?_toJson,
    Json.listOf?_map Json.str?_str]
  rfl

private theorem ofJson?_eq_of_sameAs {value other : Json} (h : value.SameAs other) :
    ofJson? value = ofJson? other := by
  have herrors := h.bind_member?_eq
    (Json.SameAs.listOf?_eq Diagnostic.ofJson?_eq_of_sameAs) "errors"
  have htexts := h.bind_member?_eq (Json.SameAs.listOf?_eq Json.SameAs.str?_eq)
  rw [ofJson?, ofJson?, h.bind_member?_eq Json.SameAs.bool?_eq,
    h.bind_member?_eq Json.SameAs.str?_eq, herrors, htexts, htexts,
    h.mapM_member?_eq Json.SameAs.str?_eq]

private theorem isLossless : Json.IsLossless toJson ofJson? :=
  .of_sameAs ofJson?_toJson ofJson?_eq_of_sameAs

private theorem exists_member?_toJson (verdict : Verdict) (name : Text) :
    (∃ value, verdict.toJson.member? name = some value) ↔
      name = "isValid" ∨ name = "language" ∨ name = "errors" ∨ name = "warnings" ∨
        name = "guidance" ∨ name = "successMessage" ∧ verdict.successMessage ≠ none := by
  rw [toJson_eq, Json.exists_member?_setMembers verdict.nodup_fields]
  simp only [fields, List.mem_cons, List.not_mem_nil, or_false, Prod.mk.injEq, exists_or,
    exists_and_left, Json.exists_some_eq_map, Option.some.injEq, exists_eq, and_true]

end Verdict

/-- Dictionaries lose nothing of diagnostics and verdicts. Their optional members are there exactly
if they are set, the others always, and what a verdict lists keeps its order. -/
theorem toJson_lossless :
    Json.IsLossless Diagnostic.toJson Diagnostic.ofJson? ∧
      Json.IsLossless Verdict.toJson Verdict.ofJson? ∧
      (∀ (diagnostic : Diagnostic) (name : Text),
        (∃ value, diagnostic.toJson.member? name = some value) ↔
          name = "message" ∨ name = "severity" ∨ name = "line" ∧ diagnostic.line ≠ none ∨
            name = "column" ∧ diagnostic.column ≠ none ∨
            name = "hint" ∧ diagnostic.hint ≠ none) ∧
      (∀ (verdict : Verdict) (name : Text),
        (∃ value, verdict.toJson.member? name = some value) ↔
          name = "isValid" ∨ name = "language" ∨ name = "errors" ∨ name = "warnings" ∨
            name = "guidance" ∨ name = "successMessage" ∧ verdict.successMessage ≠ none) ∧
      ∀ verdict : Verdict,
        verdict.toJson.member? "errors" = some (.arr (verdict.errors.map Diagnostic.toJson)) ∧
          verdict.toJson.member? "warnings" = some (.arr (verdict.warnings.map .str)) ∧
          verdict.toJson.member? "guidance" = some (.arr (verdict.guidance.map .str)) :=
  ⟨Diagnostic.isLossless, Verdict.isLossless, Diagnostic.exists_member?_toJson,
    Verdict.exists_member?_toJson, fun verdict =>
      ⟨verdict.member?_errors, verdict.member?_warnings, verdict.member?_guidance⟩⟩

end SnippetReview
