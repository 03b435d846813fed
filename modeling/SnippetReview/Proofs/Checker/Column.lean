import SnippetReview.Proofs.Checker.UnexpectedToken
import SnippetReview.Proofs.Text.Replacement

/-!
The range of columns. A parser counts columns in bytes; the column that is reported counts the code
points that these bytes are read as. Main statement: whatever bytes and whatever tree, it lies between
one and the byte column, counted from one.
-/

set_option autoImplicit false

namespace SnippetReview.JavaScript

private theorem length_slice_le (bytes : Bytes) (stop width : Nat) :
    (slice bytes ((stop : Int) - width) stop).length ≤ width := by
  rw [slice, List.length_drop, List.length_take]
  split <;> omega

/-- Whatever the bytes and the node, even where they do not fit each other, the column lies between one
and the byte column counted from one: it counts the text that the bytes of the line in front of the
node are read as. Any bytes are read as one text and only one. And whatever the tree, the column of a
diagnostic is in range for the node that it is about. -/
theorem column_in_range :
    (∀ bytes span, 1 ≤ column bytes span ∧ column bytes span ≤ span.column + 1 ∧
      ∃ text, Utf8.Reads (slice bytes ((span.start : Int) - span.column) span.start) text ∧
        column bytes span = text.length + 1) ∧
    (∀ bytes, ∃! text, Utf8.Reads bytes text) ∧
    ∀ bytes tree, ∀ d ∈ report bytes tree, ∃ place : Nat, d.column = some (place : Int) ∧
      1 ≤ place ∧ place ≤ (anchor tree.firstProblem).span.column + 1 := by
  have hreads : ∀ bytes, Utf8.Reads bytes (Utf8.decodeReplacing bytes) :=
    fun _ => Utf8.reads_iff.mpr rfl
  have hrange : ∀ bytes span, 1 ≤ column bytes span ∧ column bytes span ≤ span.column + 1 := by
    intro bytes span
    have hlength := (hreads _).length_le.trans (length_slice_le bytes span.start span.column)
    exact ⟨Nat.le_add_left 1 _, Nat.succ_le_succ hlength⟩
  refine ⟨fun bytes span => ⟨(hrange bytes span).1, (hrange bytes span).2, _, hreads _, rfl⟩,
    fun bytes => ⟨_, hreads bytes, fun text htext => (Utf8.reads_iff.mp htext).symm⟩, ?_⟩
  intro bytes tree d hd
  obtain ⟨hnil, -⟩ | ⟨reported, token, hreport, hreports⟩ := @report_cases bytes tree
  · rw [hnil] at hd
    cases hd
  · rw [hreport, List.mem_singleton] at hd
    subst hd
    exact ⟨_, hreports.column, hrange bytes _⟩

/-- A leaf whose column is before the start of the source, over the first two bytes of a character that
needs three, and a node that starts behind the end. -/
theorem column_in_range_of_truncated_bytes :
    let bytes : Bytes := [0x61, 0xC3, 0xA9, 0xE2, 0x82]
    let tree : SyntaxTree := .node ⟨0, 5, 0, 0⟩ false true [.node ⟨3, 5, 0, 4⟩ false true []]
    let d : Diagnostic := ⟨"Unexpected token \uFFFD", "error", some 1, some 1,
      some "Check brackets, parentheses, and quotes balance."⟩
    d ∈ report bytes tree ∧
      (∃ place : Nat, d.column = some (place : Int) ∧ 1 ≤ place ∧ place ≤ 4 + 1) ∧
      Utf8.Reads bytes "aé\uFFFD" ∧ column bytes ⟨9, 9, 0, 9⟩ = 4 := by
  intro bytes tree d
  have hd : d ∈ report bytes tree := by
    decide +kernel
  obtain ⟨hcolumn, -, hreport⟩ := column_in_range
  obtain ⟨-, -, text, hreads, hcount⟩ := hcolumn bytes ⟨9, 9, 0, 9⟩
  have htext : text = Text.ofString "aé\uFFFD" := by
    rw [← Utf8.reads_iff.mp hreads]
    decide +kernel
  subst htext
  exact ⟨hd, hreport bytes tree d hd, hreads, hcount⟩

end SnippetReview.JavaScript
