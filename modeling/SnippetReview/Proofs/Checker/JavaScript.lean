import SnippetReview.Proofs.Checker.OffendingToken
import SnippetReview.Proofs.Text.Lines
import SnippetReview.Proofs.Text.Utf8

/-!
The place of a JavaScript diagnostic. Whatever tree a parser returns, if the node that is reported
stands in the source where its coordinates say, then the line and the column of the diagnostic lead
to the token that its message names, blanks aside.
-/

set_option autoImplicit false

namespace SnippetReview.JavaScript

open Cursor Pattern

/-- The span covers `inside` in a source that reads `before ++ inside` up to its end: both ends are
edges of code points, the row counts the line feeds before it and the column the bytes since. -/
structure Covers (span : Span) (before inside : Text) : Prop where
  start : span.start = (before.flatMap CodePoint.utf8).length
  stop : span.stop = ((before ++ inside).flatMap CodePoint.utf8).length
  row : span.row = before.count (CodePoint.ofChar '\n')
  column : span.column = ((before.rtakeWhile CodePoint.inLine).flatMap CodePoint.utf8).length

section Coordinates

variable {span : Span} {before inside : Text}

private theorem column_encoded (hspan : Covers span before inside)
    (hbefore : ∀ c ∈ before, c.isSurrogate = false) (after : Text) :
    column ((before ++ (inside ++ after)).flatMap CodePoint.utf8) span =
      (before.rtakeWhile CodePoint.inLine).length + 1 := by
  have hsplit : before.rdropWhile CodePoint.inLine ++ before.rtakeWhile CodePoint.inLine = before :=
    List.rdropWhile_append_rtakeWhile
  have hlengths := congrArg (fun text => (text.flatMap CodePoint.utf8).length) hsplit
  simp only [List.flatMap_append, List.length_append] at hlengths
  have hfirst : ((span.start : Int) - span.column).toNat =
      ((before.rdropWhile CodePoint.inLine).flatMap CodePoint.utf8).length := by
    rw [hspan.start, hspan.column]
    omega
  have hslice : slice ((before ++ (inside ++ after)).flatMap CodePoint.utf8)
      ((span.start : Int) - span.column) span.start =
        (before.rtakeWhile CodePoint.inLine).flatMap CodePoint.utf8 := by
    have hnonneg : ¬ (span.start : Int) - span.column < 0 := by
      rw [hspan.start, hspan.column]
      omega
    rw [slice, if_neg hnonneg, hfirst, hspan.start, List.flatMap_append, List.take_left]
    nth_rewrite 2 [← hsplit]
    rw [List.flatMap_append, List.drop_left]
  rw [column, hslice, Utf8.decodeReplacing_encoded]
  intro c hc
  exact hbefore c ((List.rtakeWhile_suffix _ _).subset hc)

private theorem leafText_encoded (hspan : Covers span before inside)
    (hinside : ∀ c ∈ inside, c.isSurrogate = false) (after : Text) :
    leafText ((before ++ (inside ++ after)).flatMap CodePoint.utf8) span = inside.trim := by
  have hslice : slice ((before ++ (inside ++ after)).flatMap CodePoint.utf8) span.start span.stop =
      inside.flatMap CodePoint.utf8 := by
    have hcover : ((before ++ inside ++ after).flatMap CodePoint.utf8).take span.stop =
        (before ++ inside).flatMap CodePoint.utf8 := by
      rw [@List.flatMap_append _ _ (before ++ inside), hspan.stop, List.take_left]
    rw [slice, if_neg (by omega), Int.toNat_natCast, ← List.append_assoc, hcover, hspan.start,
      List.flatMap_append, List.drop_left]
  rw [leafText, hslice, Utf8.decodeReplacing_encoded hinside]

private theorem drop_start (hspan : Covers span before inside) (after : Text) :
    ((before ++ (inside ++ after)).flatMap CodePoint.utf8).drop span.start =
      (inside ++ after).flatMap CodePoint.utf8 := by
  rw [hspan.start, List.flatMap_append, List.drop_left]

end Coordinates

/-- Some text names a token of another: it is not empty, begins visibly, and is what the other one
begins with, blanks aside. -/
def Names (token text : Text) : Prop :=
  (∃ c, token.head? = some c ∧ c.isBlank = false) ∧ token <+: text.trimLeft

private theorem IsFirstToken.names {text token : Text} (h : IsFirstToken text token) :
    Names token text := by
  obtain ⟨gap, rest, rfl, hgap, htoken⟩ := h
  refine ⟨htoken.isVisible.exists_head, ?_⟩
  rw [Text.trimLeft_append_of_blank hgap, Text.trimLeft_eq_self (htoken.isVisible.head rest)]
  exact List.prefix_append ..

private theorem names_trim {inside : Text} (hne : inside.trim ≠ []) (after : Text) :
    Names inside.trim (inside ++ after) := by
  obtain ⟨c, hc⟩ := Option.ne_none_iff_exists'.mp (mt List.head?_eq_none_iff.mp hne)
  refine ⟨⟨c, hc, Text.isBlank_head_trim hc⟩, ?_⟩
  obtain ⟨right, hright, -⟩ := Text.exists_trimRight inside.trimLeft
  have hvisible : inside.trimLeft ≠ [] := by
    intro h
    rw [Text.trim, h] at hne
    exact hne rfl
  have hpassed : (inside ++ after).trimLeft = inside.trimLeft ++ after := by
    rw [Text.trimLeft, List.dropWhile_append, if_neg (by rwa [List.isEmpty_iff])]
    rfl
  rw [hpassed, hright, List.append_assoc]
  exact List.prefix_append ..

theorem head?_takeWhile_inLine {token : Text} {c : CodePoint} (hc : token.head? = some c)
    (hvisible : c.isBlank = false) : (token.takeWhile CodePoint.inLine).head? = some c := by
  obtain ⟨more, rfl⟩ := List.head?_eq_some_iff.mp hc
  have hline : c.inLine = true := by
    have hne : c ≠ CodePoint.ofChar '\n' := by
      rintro rfl
      exact absurd hvisible (by decide)
    simpa [CodePoint.inLine] using hne
  rw [List.takeWhile_cons_of_pos hline, List.head?_cons]

private theorem Names.takeWhile_inLine {token text : Text} (h : Names token text) :
    Names (token.takeWhile CodePoint.inLine) text := by
  obtain ⟨⟨c, hc, hvisible⟩, hbegins⟩ := h
  exact ⟨⟨c, head?_takeWhile_inLine hc hvisible, hvisible⟩,
    (List.takeWhile_prefix _).trans hbegins⟩

private theorem head?_unexpected (detail : Text) :
    (Text.ofString "Unexpected token " ++ detail).head? = some (CodePoint.ofChar 'U') := by
  have hhead : (Text.ofString "Unexpected token ").head? = some (CodePoint.ofChar 'U') := by
    decide
  rw [List.head?_append, hhead, Option.some_or]

private theorem tokenMessage_eq (token : Text) : tokenMessage token =
    Text.ofString "SyntaxError" ++ CodePoint.ofChar ':' :: CodePoint.ofChar ' ' ::
      (Text.ofString "Unexpected token " ++ token) := by
  have htext : Text.ofString "SyntaxError: Unexpected token " = Text.ofString "SyntaxError" ++
      CodePoint.ofChar ':' :: CodePoint.ofChar ' ' :: Text.ofString "Unexpected token " := by
    decide
  rw [tokenMessage, htext]
  simp

private theorem mem_ends_errorKind_iff {token : Text} {later : Cursor} :
    later ∈ errorKind.ends ⟨none, tokenMessage token⟩ ↔
      later = ⟨some (CodePoint.ofChar ' '), Text.ofString "Unexpected token " ++ token⟩ := by
  obtain ⟨back, rest⟩ := later
  rw [mem_ends_iff, tokenMessage_eq, Cursor.mk.injEq]
  constructor
  · rintro ⟨matched, hsplit, hback, hmatch⟩
    dsimp only at hsplit hback hmatch
    rw [errorKind] at hmatch
    obtain ⟨kind, gap, rfl, hkind, hgap⟩ := matches_append.mp hmatch
    obtain ⟨word, colon, rfl, hword, hcolon⟩ := matches_append.mp hkind
    obtain ⟨-, hletters⟩ := matches_atLeastOne.mp hword
    obtain ⟨hne, hblanks⟩ := matches_gap.mp hgap
    rw [matches_char] at hcolon
    subst hcolon
    simp only [List.append_assoc, List.cons_append, List.nil_append] at hsplit
    have hnot : (CodePoint.ofChar ':').isWord = false :=
      (CodePoint.isWord_of_ascii (by decide)).trans (by decide)
    obtain ⟨-, -, hrest⟩ := eq_of_run_append_cons (by decide) hletters hnot hnot hsplit
    obtain ⟨space, more, rfl⟩ := List.exists_cons_of_ne_nil hne
    change _ = space :: (more ++ rest) at hrest
    rw [List.cons.injEq] at hrest
    cases more with
    | nil => exact ⟨by simp [hback, hrest.1], hrest.2.symm⟩
    | cons c more =>
      -- A longer gap would take in the letter that the detail begins with.
      have hc := congrArg List.head? hrest.2
      rw [head?_unexpected, List.cons_append, List.head?_cons, Option.some.injEq] at hc
      exact absurd (hblanks c (by simp)) (by rw [← hc]; decide)
  · rintro ⟨rfl, rfl⟩
    refine ⟨Text.ofString "SyntaxError" ++ [CodePoint.ofChar ':'] ++ [CodePoint.ofChar ' '],
      by simp, by simp, ?_⟩
    rw [errorKind, matches_append]
    refine ⟨_, _, rfl, ?_, ?_⟩
    · rw [matches_append]
      refine ⟨_, _, rfl, ?_, ?_⟩
      · rw [matches_atLeastOne]
        decide
      · rw [matches_char]
    · rw [matches_gap]
      decide

/-- The detail of a message about a token says which token, up to the end of the line. -/
theorem detail?_tokenMessage (token : Text) : detail? (tokenMessage token) =
    some (Text.ofString "Unexpected token " ++ token.takeWhile CodePoint.inLine) := by
  rw [← List.takeWhile_append_of_pos (by decide)]
  refine findFrom_of_start (partAfter_atLeastOne (mem_ends_errorKind_iff.mpr rfl)
    (fun _ => mem_ends_errorKind_iff.mp) ?_)
  rw [head?_unexpected]
  decide

private theorem describe_encoded {problem : SyntaxTree} {before inside after : Text}
    (hspan : Covers (anchor problem).span before inside)
    (hafter : ∀ c ∈ inside ++ after, c.isSurrogate = false) :
    describe ((before ++ (inside ++ after)).flatMap CodePoint.utf8) problem = endMessage ∨
      ∃ token, Names token (inside ++ after) ∧
        describe ((before ++ (inside ++ after)).flatMap CodePoint.utf8) problem =
          tokenMessage token := by
  rw [anchor] at hspan
  obtain hend | ⟨token, hdescribe, htoken, c, hc, -⟩ := describe_cases
    ((before ++ (inside ++ after)).flatMap CodePoint.utf8) problem
  · exact Or.inl hend
  · refine Or.inr ⟨token, ?_, hdescribe⟩
    rw [IsOffending] at htoken
    split at htoken
    · next hmissing =>
      rw [if_pos hmissing] at hspan
      rw [drop_start hspan, Utf8.decodeReplacing_encoded hafter] at htoken
      exact htoken.names
    · next hpresent =>
      rw [if_neg hpresent] at hspan
      rw [leafText_encoded hspan fun c hc => hafter c (List.mem_append_left after hc)] at htoken
      subst htoken
      refine names_trim ?_ after
      intro hnil
      rw [hnil] at hc
      cases hc

/-- A reported problem leads to what it names: if the anchor stands in the source where its
coordinates say, then the line of the diagnostic is one more than the line feeds before the anchor,
its column one more than the characters since the last of them, and what stands in the source from
there on begins, blanks aside, with the token of the message. -/
theorem check_names_token_at_place (parse : Text → SyntaxTree) {source : Text}
    (hsource : ∀ c ∈ source, c.isSurrogate = false) {diagnostics : List Diagnostic}
    (hcheck : check parse source = .ok diagnostics) {d : Diagnostic} (hd : d ∈ diagnostics)
    (before inside after : Text) (hsplit : source = before ++ (inside ++ after))
    (hspan : Covers (anchor (parse source).firstProblem).span before inside) :
    ∃ (line column : Nat) (token : Text), d.line = some ↑line ∧ d.column = some ↑column ∧
      line = 1 + before.count (CodePoint.ofChar '\n') ∧
      column = 1 + (before.rtakeWhile CodePoint.inLine).length ∧
      d.message = Text.ofString "Unexpected token " ++ token ∧
      Names token (source.fromPlace line column) := by
  have hparts : (∀ c ∈ before, c.isSurrogate = false) ∧
      ∀ c ∈ inside ++ after, c.isSurrogate = false := by
    rwa [hsplit, List.forall_mem_append] at hsource
  have hreport : d ∈ report (source.flatMap CodePoint.utf8) (parse source) := by
    rw [check, Utf8.encode_eq_ok hsource] at hcheck
    split at hcheck
    · rw [← Except.ok.inj hcheck] at hd
      simp at hd
    · rwa [← Except.ok.inj hcheck] at hd
  have hdescribe := describe_encoded hspan hparts.2
  have hcolumn := column_encoded hspan hparts.1 after
  rw [← hsplit] at hdescribe hcolumn
  rw [report] at hreport
  split at hreport
  · simp only at hreport
    split at hreport
    · simp at hreport
    · next hmarker =>
      obtain hend | ⟨token, hnames, htoken⟩ := hdescribe
      · rw [hend] at hmarker
        exact absurd (by decide) hmarker
      · rw [htoken, List.mem_singleton, diagnosticOf, detail?_tokenMessage] at hreport
        subst hreport
        refine ⟨_, _, token.takeWhile CodePoint.inLine, ?_, ?_, rfl, rfl, rfl, ?_⟩
        · simp [hspan.row, Int.add_comm]
        · simp [hcolumn, Nat.add_comm]
        · rw [hsplit, Text.fromPlace_append]
          exact hnames.takeWhile_inLine
  · simp at hreport

/-- Characters of two bytes on both lines: the anchor stands at the third character of its line and
at its fourth byte. -/
theorem check_names_token_at_place_of_two_byte_characters :
    let source : Text := Text.ofString "é\nπ ?? x"
    let parse : Text → SyntaxTree := fun _ =>
      .node ⟨0, 10, 0, 0⟩ false true [.node ⟨6, 10, 1, 3⟩ false true []]
    let d : Diagnostic := ⟨"Unexpected token ?? x", "error", some 2, some 3,
      some "Check brackets, parentheses, and quotes balance."⟩
    check parse source = .ok [d] ∧ ∃ (line column : Nat) (token : Text),
      d.line = some ↑line ∧ d.column = some ↑column ∧ line = 1 + 1 ∧ column = 1 + 2 ∧
        d.message = Text.ofString "Unexpected token " ++ token ∧
        Names token (source.fromPlace line column) := by
  intro source parse d
  have hcheck : check parse source = .ok [d] := by
    decide +kernel
  refine ⟨hcheck, ?_⟩
  exact check_names_token_at_place parse (by decide) hcheck (List.mem_singleton.mpr rfl)
    (Text.ofString "é\nπ ") (Text.ofString "?? x") [] (by decide)
    ⟨by decide, by decide, by decide, by decide⟩

end SnippetReview.JavaScript
