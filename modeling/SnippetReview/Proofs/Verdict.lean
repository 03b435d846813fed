import SnippetReview.Proofs.Checker.OffendingToken
import SnippetReview.Proofs.Checker.Order
import SnippetReview.Proofs.Evaluate

/-!
What every verdict keeps to, whichever checker it comes from: whether it is good can be read off its
errors, its success message or its guidance alike, and a submission without code is told from one in
a language without a checker.
-/

set_option autoImplicit false

namespace SnippetReview

def Diagnostic.IsError (d : Diagnostic) : Prop :=
  d.severity = error ∧ d.message ≠ []

private theorem Diagnostic.IsComplete.isError {d : Diagnostic} (h : d.IsComplete) : d.IsError :=
  ⟨h.severity, h.message⟩

namespace JavaScript

variable {parse : Text → SyntaxTree} {source : Text}

private theorem describe_ne_nil (bytes : Bytes) (problem : SyntaxTree) :
    describe bytes problem ≠ [] := by
  have htoken : ∀ token, tokenMessage token ≠ [] := by
    intro token
    simp [tokenMessage]
  have hend : endMessage ≠ [] := by
    simp [endMessage]
  obtain hnothing | ⟨token, hdescribe, -⟩ := describe_cases bytes problem
  · rw [hnothing]
    exact hend
  · rw [hdescribe]
    exact htoken token

private theorem isError_diagnosticOf {message : Text} (hmessage : message ≠ [])
    (line column : Option Int) :
    (diagnosticOf message line column).IsError := by
  rw [diagnosticOf]
  split
  · next detail hdetail =>
    obtain ⟨front, led, back, -, -, hmatch⟩ := Pattern.exists_of_find?_eq_some hdetail
    exact ⟨rfl, (Pattern.matches_atLeastOne.mp hmatch).1⟩
  · exact ⟨rfl, hmessage⟩

private theorem isError_of_mem_check {found : List Diagnostic} (h : check parse source = .ok found)
    {d : Diagnostic} (hd : d ∈ found) : d.IsError := by
  have hreport : ∀ {bytes : Bytes} {tree : SyntaxTree}, d ∈ report bytes tree → d.IsError := by
    intro bytes tree hmem
    simp only [report] at hmem
    split at hmem
    · split at hmem
      · cases hmem
      · rw [List.mem_singleton] at hmem
        rw [hmem]
        exact isError_diagnosticOf (describe_ne_nil bytes _) ..
    · cases hmem
  rw [check] at h
  split at h
  · cases h
    cases hd
  · cases hbytes : Utf8.encode source with
    | error run => simp [hbytes, Except.map] at h
    | ok bytes =>
      simp only [hbytes, Except.map, Except.ok.injEq] at h
      rw [← h] at hd
      exact hreport hd

end JavaScript

def Language.names : List Text :=
  ["javascript", "python", "c", "java", "other"]

private theorem Language.name_mem_names (language : Language) : language.name ∈ names := by
  cases language <;> decide

private theorem Language.eq_other_of_name (language : Language) :
    language.name = other.name → language = other := by
  cases language <;> decide

namespace Evaluate

variable {parse : Text → SyntaxTree} {submission hint : Option Text} {verdict : Verdict}

/-- All that guidance can say, in the order in which it is said. -/
def allGuidance : List Text :=
  [emptyGuidance, consoleGuidance, shortGuidance, cleanGuidance]

/-- What a verdict keeps to: each of its parts tells whether it is good, and it says nothing twice,
nothing out of order and no more than three things beside its errors. -/
structure IsConsistent (verdict : Verdict) : Prop where
  language : verdict.language ∈ Language.names
  isValid_iff : verdict.isValid = true ↔ verdict.errors = []
  successMessage_iff : verdict.successMessage.isSome = true ↔ verdict.errors = []
  cleanGuidance_iff : cleanGuidance ∈ verdict.guidance ↔ verdict.errors = []
  warnings : verdict.warnings = []
  guidance_sublist : verdict.guidance.Sublist allGuidance
  guidance_length : verdict.guidance.length ≤ 3
  guidance_nodup : verdict.guidance.Nodup
  errors : ∀ d ∈ verdict.errors, d.IsError

private theorem isError_of_errors {language : Language} {source : Text} {found : List Diagnostic}
    (h : errors parse language source = .ok found) : ∀ d ∈ found, d.IsError := by
  intro d hd
  cases language with
  | javascript => exact JavaScript.isError_of_mem_check h hd
  | python =>
    cases h
    exact (LineRule.exists_of_mem_check Python.located_of_mem_rules hd).1.isError
  | c =>
    cases h
    exact (Semicolon.isComplete_of_mem_checkWith C.unlocated_of_mem_sourceRules
      (by simp [C.semicolons]) hd).1.isError
  | java =>
    cases h
    exact (Semicolon.isComplete_of_mem_checkWith Java.unlocated_of_mem_sourceRules
      (by simp [Java.semicolons]) hd).1.isError
  | other =>
    cases h
    cases hd

section Guidance

variable (language : Language) (source : Text) (found : List Diagnostic)

private theorem guidance_sublist : (guidance language source found).Sublist
    [consoleGuidance, shortGuidance, cleanGuidance] := by
  have hpart : ∀ (b : Bool) (text : Text), (if b then [text] else []).Sublist [text] := by
    intro b text
    cases b
    · exact List.nil_sublist _
    · exact List.Sublist.refl _
  have hshort : (if source.trim.length < meaningfulLength then [shortGuidance] else []).Sublist
      [shortGuidance] := by
    split
    · exact List.Sublist.refl _
    · exact List.nil_sublist _
  exact ((hpart _ _).append hshort).append (hpart _ _)

private theorem cleanGuidance_mem_guidance_iff :
    cleanGuidance ∈ guidance language source found ↔ found = [] := by
  have hconsole : cleanGuidance ≠ consoleGuidance := by
    decide +kernel
  have hshort : cleanGuidance ≠ shortGuidance := by
    decide +kernel
  cases found with
  | nil => simp [guidance]
  | cons d found =>
    simp only [guidance, List.isEmpty_cons, Bool.false_eq_true, if_false, List.append_nil,
      List.mem_append, reduceCtorEq, iff_false]
    rintro (hmem | hmem)
    · split at hmem
      · exact hconsole (List.mem_singleton.mp hmem)
      · cases hmem
    · split at hmem
      · exact hshort (List.mem_singleton.mp hmem)
      · cases hmem

private theorem isConsistent_verdict (hfound : ∀ d ∈ found, d.IsError) :
    IsConsistent (Evaluate.verdict language source found) := by
  have hsublist := guidance_sublist language source found
  constructor
  case language => exact language.name_mem_names
  case isValid_iff => exact List.isEmpty_iff
  case successMessage_iff => cases found <;> simp [Evaluate.verdict]
  case cleanGuidance_iff => exact cleanGuidance_mem_guidance_iff language source found
  case warnings => rfl
  case guidance_sublist => exact hsublist.trans (List.sublist_cons_self ..)
  case guidance_length => exact hsublist.length_le
  case guidance_nodup => exact hsublist.nodup (by decide +kernel)
  case errors => exact hfound

end Guidance

private theorem isConsistent_emptyVerdict : IsConsistent emptyVerdict := by
  constructor
  case errors =>
    intro d hd
    rw [emptyVerdict, List.mem_singleton] at hd
    rw [hd]
    exact ⟨rfl, by simp [emptyMessage]⟩
  all_goals decide +kernel

private theorem evaluate_of_all_isBlank (h : submission.all Text.isBlank = true) :
    evaluate parse submission hint = .ok emptyVerdict := by
  cases submission with
  | none => exact @evaluate_of_isBlank parse [] hint rfl
  | some source => exact evaluate_of_isBlank h

private theorem isValid_verdict_of_name {language : Language} {source : Text}
    {found : List Diagnostic} (h : errors parse language source = .ok found)
    (hname : language.name = Language.other.name) :
    (Evaluate.verdict language source found).isValid = true := by
  rw [language.eq_other_of_name hname] at h ⊢
  cases h
  rfl

/-- Every verdict is consistent. It is bad and in none of the languages with a checker exactly if
there is no code, and then neither the hint nor the parser matters; else it is in the language that
the hint names, and its errors are all that the checker of this language reports about the code as it
stands. -/
theorem isConsistent_of_evaluate (h : evaluate parse submission hint = .ok verdict) :
    IsConsistent verdict ∧
    ((verdict.isValid = false ∧ verdict.language = Language.other.name) ↔
      submission.all Text.isBlank = true) ∧
    (submission.all Text.isBlank = true →
      ∀ parse' hint', evaluate parse' submission hint' = .ok verdict) ∧
    ∀ source, submission = some source → source.isBlank = false →
      verdict.language = (Language.resolve hint).name ∧
        errors parse (Language.resolve hint) source = .ok verdict.errors := by
  cases hblank : submission.all Text.isBlank with
  | true =>
    have hverdict : verdict = emptyVerdict := by
      rw [evaluate_of_all_isBlank hblank, Except.ok.injEq] at h
      exact h.symm
    subst hverdict
    refine ⟨isConsistent_emptyVerdict, by decide, ?_, ?_⟩
    · intro _ parse' hint'
      exact evaluate_of_all_isBlank hblank
    · rintro source rfl hvisible
      rw [Option.all_some, hvisible] at hblank
      cases hblank
  | false =>
    obtain ⟨source, rfl⟩ : ∃ source, submission = some source := by
      cases submission with
      | none => cases hblank
      | some source => exact ⟨source, rfl⟩
    have hvisible : source.isBlank = false := hblank
    rw [evaluate_of_not_isBlank hvisible] at h
    cases hfound : errors parse (Language.resolve hint) source with
    | error run => simp [hfound, Except.map] at h
    | ok found =>
      simp only [hfound, Except.map, Except.ok.injEq] at h
      subst h
      refine ⟨isConsistent_verdict _ source found (isError_of_errors hfound), ?_, ?_, ?_⟩
      · simp only [Bool.false_eq_true, iff_false, not_and]
        intro hbad hname
        rw [isValid_verdict_of_name hfound hname] at hbad
        cases hbad
      · intro hnone
        cases hnone
      · rintro _ hsame -
        cases hsame
        exact ⟨rfl, hfound⟩

/-- A short script with a second number after the first one, written in a language that is named in
capitals. -/
theorem isConsistent_of_evaluate_of_second_number :
    let source : Text := Text.ofString "x = 5 5;"
    let parse : Text → SyntaxTree := fun _ =>
      .node ⟨0, 8, 0, 0⟩ false true [.node ⟨6, 7, 0, 6⟩ false true []]
    let verdict : Verdict := ⟨false, "javascript", [⟨"Unexpected token 5", "error", some 1, some 7,
      some "Check brackets, parentheses, and quotes balance."⟩], [], [shortGuidance], none⟩
    evaluate parse (some source) (some "TypeScript") = .ok verdict ∧ IsConsistent verdict ∧
      ¬ (verdict.isValid = false ∧ verdict.language = Language.other.name) ∧
      errors parse .javascript source = .ok verdict.errors := by
  intro source parse verdict
  have hevaluate : evaluate parse (some source) (some "TypeScript") = .ok verdict := by
    decide +kernel
  obtain ⟨hconsistent, hblank, -, hchecked⟩ := isConsistent_of_evaluate hevaluate
  have hvisible : source.isBlank = false := by
    decide
  refine ⟨hevaluate, hconsistent, ?_, ?_⟩
  · rw [hblank, Option.all_some, hvisible]
    exact Bool.false_ne_true
  · have hlanguage : Language.resolve (some (Text.ofString "TypeScript")) = .javascript := by
      decide +kernel
    have herrors := (hchecked source rfl hvisible).2
    rwa [hlanguage] at herrors

end Evaluate

end SnippetReview
