import Mathlib.Data.List.DropRight
import Mathlib.Data.List.InsertIdx
import SnippetReview.Proofs.Text.Padding

/-!
The lines of a text. A text is its lines with line feeds between them, so what a single line can
hold is found in a text if it is found in one of its lines, and whatever counts code points counts
them by line.
-/

set_option autoImplicit false

namespace SnippetReview.Text

theorem splitOn_eq (separator : CodePoint) (text : Text) :
    text.splitOn separator = List.splitOn separator text := by
  induction text with
  | nil => rfl
  | cons c text ih =>
    rw [splitOn, List.splitOn_cons_eq_if_modifyHead, ih]
    simp only [beq_iff_eq]
    split
    · rfl
    · obtain ⟨piece, pieces, h⟩ := List.exists_cons_of_ne_nil (List.splitOn_ne_nil separator text)
      rw [h]
      rfl

theorem not_mem_of_mem_splitOn {separator : CodePoint} {text piece : Text}
    (h : piece ∈ text.splitOn separator) : separator ∉ piece := by
  induction text generalizing piece with
  | nil =>
    rw [splitOn, List.mem_singleton] at h
    rw [h]
    exact List.not_mem_nil
  | cons c text ih =>
    rw [splitOn] at h
    split at h
    · obtain rfl | h := List.mem_cons.mp h
      · exact List.not_mem_nil
      · exact ih h
    · next hc =>
      split at h
      · rw [List.mem_singleton] at h
        simpa [h] using Ne.symm hc
      · next first pieces hsplit =>
        rw [hsplit] at ih
        obtain rfl | h := List.mem_cons.mp h
        · rw [List.mem_cons, not_or]
          exact ⟨Ne.symm hc, ih List.mem_cons_self⟩
        · exact ih (List.mem_cons_of_mem first h)

private theorem lines_ne_nil (source : Text) : source.lines ≠ [] := by
  rw [lines, splitOn_eq]
  exact List.splitOn_ne_nil _ _

theorem lines_of_not_mem {line : Text} (h : CodePoint.ofChar '\n' ∉ line) :
    line.lines = [line] := by
  rw [lines, splitOn_eq, List.splitOn_eq_singleton h]

theorem lines_append_newline {line : Text} (h : CodePoint.ofChar '\n' ∉ line) (rest : Text) :
    (line ++ CodePoint.ofChar '\n' :: rest).lines = line :: rest.lines := by
  rw [lines, splitOn_eq, List.splitOn_append_cons_self_of_not_mem h, lines, splitOn_eq]

/-- What holds of single lines and is kept by putting a line in front holds of every text. -/
theorem lines_induction {motive : Text → Prop}
    (last : ∀ line, CodePoint.ofChar '\n' ∉ line → motive line)
    (next : ∀ line rest, CodePoint.ofChar '\n' ∉ line → motive rest →
      motive (line ++ CodePoint.ofChar '\n' :: rest)) (source : Text) : motive source := by
  have hall : ∀ line, CodePoint.ofChar '\n' ∉ line → motive (line ++ source) := by
    induction source with
    | nil => exact fun line hline => by simpa using last line hline
    | cons c source ih =>
      intro line hline
      by_cases hc : c = CodePoint.ofChar '\n'
      · rw [hc]
        exact next line source hline (by simpa using ih [] (by simp))
      · simpa using ih (line ++ [c]) (by simp [hline, Ne.symm hc])
  simpa using hall [] (by simp)

theorem lines_append_cons_newline (front rest : Text) :
    (front ++ CodePoint.ofChar '\n' :: rest).lines = front.lines ++ rest.lines := by
  induction front using lines_induction with
  | last line h => rw [lines_append_newline h, lines_of_not_mem h, List.singleton_append]
  | next line more h ih =>
    rw [List.append_assoc, List.cons_append, lines_append_newline h, lines_append_newline h, ih,
      List.cons_append]

theorem length_lines (source : Text) :
    source.lines.length = source.count (CodePoint.ofChar '\n') + 1 := by
  induction source using lines_induction with
  | last line h => rw [lines_of_not_mem h, List.count_eq_zero.mpr h, List.length_singleton]
  | next line rest h ih =>
    rw [lines_append_newline h, List.length_cons, ih, List.count_append,
      List.count_eq_zero.mpr h, List.count_cons_self, Nat.zero_add]

theorem not_mem_of_mem_lines {source line : Text} (h : line ∈ source.lines) :
    CodePoint.ofChar '\n' ∉ line :=
  not_mem_of_mem_splitOn h

private theorem join_lines (source : Text) : join "\n" source.lines = source := by
  rw [lines, splitOn_eq]
  exact List.intercalate_splitOn _

private theorem lines_join {pieces : List Text} (hne : pieces ≠ [])
    (h : ∀ line ∈ pieces, CodePoint.ofChar '\n' ∉ line) : lines (join "\n" pieces) = pieces := by
  rw [lines, splitOn_eq]
  exact List.splitOn_intercalate _ h hne

theorem count_congr_of_lines {source other : Text} {c : CodePoint} (hc : c ≠ CodePoint.ofChar '\n')
    (h : source.lines.map (List.count c) = other.lines.map (List.count c)) :
    source.count c = other.count c := by
  have hflatten : ∀ text : Text, text.count c = text.lines.flatten.count c := by
    intro text
    induction text using lines_induction with
    | last line hline => simp [lines_of_not_mem hline]
    | next line rest hline ih =>
      rw [lines_append_newline hline, List.count_append, List.count_cons_of_ne (Ne.symm hc), ih,
        List.flatten_cons, List.count_append]
  rw [hflatten source, hflatten other, List.count_flatten, List.count_flatten, h]

private theorem isInfix_append_newline {needle line rest : Text}
    (hneedle : CodePoint.ofChar '\n' ∉ needle)
    (hne : needle ≠ []) : needle <:+: line ++ CodePoint.ofChar '\n' :: rest ↔
      needle <:+: line ∨ needle <:+: rest := by
  induction line with
  | nil =>
    rw [List.nil_append, List.infix_cons_iff]
    obtain ⟨c, needle, rfl⟩ := List.exists_cons_of_ne_nil hne
    simp only [List.mem_cons, not_or] at hneedle
    simp [List.cons_prefix_cons, Ne.symm hneedle.1]
  | cons d line ih =>
    rw [List.cons_append, List.infix_cons_iff, ih, List.infix_cons_iff, or_assoc]
    refine or_congr_left ?_
    constructor
    · rintro ⟨back, h⟩
      rw [← List.cons_append] at h
      obtain ⟨more, hline, -⟩ | ⟨beyond, hbeyond, hrest⟩ := List.append_eq_append_iff.mp h
      · exact ⟨more, hline.symm⟩
      · cases beyond with
        | nil => exact ⟨[], by simpa using hbeyond⟩
        | cons e beyond =>
          rw [List.cons_append, List.cons.injEq] at hrest
          exact absurd (by simp [hbeyond, hrest.1]) hneedle
    · rintro ⟨back, h⟩
      exact ⟨back ++ CodePoint.ofChar '\n' :: rest,
        by rw [← List.append_assoc, h, List.cons_append]⟩

private theorem occursIn_eq_any_lines {needle : Text} (hneedle : CodePoint.ofChar '\n' ∉ needle)
    (hne : needle ≠ []) (source : Text) :
    occursIn needle source = source.lines.any (occursIn needle) := by
  induction source using lines_induction with
  | last line hline => simp [lines_of_not_mem hline]
  | next line rest hline ih =>
    rw [lines_append_newline hline, List.any_cons, ← ih, Bool.eq_iff_iff, Bool.or_eq_true,
      occursIn_iff_isInfix, occursIn_iff_isInfix, occursIn_iff_isInfix,
      isInfix_append_newline hneedle hne]

theorem occursIn_congr_of_lines {needle : Text} (hneedle : CodePoint.ofChar '\n' ∉ needle)
    (hne : needle ≠ []) {source other : Text}
    (h : source.lines.map (occursIn needle) = other.lines.map (occursIn needle)) :
    occursIn needle source = occursIn needle other := by
  have hany : ∀ text : Text, occursIn needle text = (text.lines.map (occursIn needle)).any id := by
    intro text
    rw [occursIn_eq_any_lines hneedle hne, List.any_map]
    rfl
  rw [hany, h, ← hany]

def appendToLine (source : Text) (number : Nat) (mark : Text) : Text :=
  join "\n" (source.lines.modify (number - 1) (· ++ mark))

/-- Changing a line leaves the other lines as they are, unless it makes two lines of it. -/
private theorem lines_join_modify {f : Text → Text}
    (hf : ∀ line, CodePoint.ofChar '\n' ∉ line → CodePoint.ofChar '\n' ∉ f line) (source : Text)
    (i : Nat) : lines (join "\n" (source.lines.modify i f)) = source.lines.modify i f := by
  refine lines_join ?_ ?_
  · rw [ne_eq, List.modify_eq_nil_iff]
    exact lines_ne_nil source
  · intro line hline
    obtain ⟨j, hj, rfl⟩ := List.mem_iff_getElem.mp hline
    rw [List.getElem_modify]
    rw [List.length_modify] at hj
    have hlines := not_mem_of_mem_lines (List.getElem_mem hj)
    split
    · exact hf _ hlines
    · exact hlines

theorem lines_appendToLine {mark : Text} (hmark : CodePoint.ofChar '\n' ∉ mark) (source : Text)
    (number : Nat) :
    (source.appendToLine number mark).lines = source.lines.modify (number - 1) (· ++ mark) :=
  lines_join_modify (fun line hline => by simp [hline, hmark]) source (number - 1)

def replaceLine (source : Text) (number : Nat) (line : Text) : Text :=
  join "\n" (source.lines.set (number - 1) line)

theorem lines_replaceLine {line : Text} (hline : CodePoint.ofChar '\n' ∉ line) (source : Text)
    (number : Nat) : (source.replaceLine number line).lines = source.lines.set (number - 1) line := by
  refine lines_join ?_ fun other hother => ?_
  · rw [ne_eq, List.set_eq_nil_iff]
    exact lines_ne_nil source
  · rcases List.mem_or_eq_of_mem_set hother with hmem | rfl
    · exact not_mem_of_mem_lines hmem
    · exact hline

/-- The text with one more line, which gets a number and comes before the one that had it. -/
def insertLine (source : Text) (number : Nat) (line : Text) : Text :=
  join "\n" (source.lines.insertIdx (number - 1) line)

theorem lines_insertLine {line : Text} (hline : CodePoint.ofChar '\n' ∉ line) (source : Text)
    (number : Nat) :
    (source.insertLine number line).lines = source.lines.insertIdx (number - 1) line := by
  refine lines_join ?_ fun other hother => ?_
  · rw [ne_eq, ← List.length_eq_zero_iff]
    have hlonger := List.length_le_length_insertIdx (l := source.lines) (i := number - 1) (x := line)
    have hsome := source.length_lines
    omega
  · rcases List.eq_or_mem_of_mem_insertIdx hother with rfl | hmem
    · exact hline
    · exact not_mem_of_mem_lines hmem

def deleteLine (source : Text) (number : Nat) : Text :=
  join "\n" (source.lines.eraseIdx (number - 1))

theorem lines_deleteLine (source : Text) (number : Nat) :
    (source.deleteLine number).lines = source.lines.eraseIdx (number - 1) ∨
      source.lines.eraseIdx (number - 1) = [] ∧ (source.deleteLine number).lines = [[]] := by
  by_cases hnil : source.lines.eraseIdx (number - 1) = []
  · refine Or.inr ⟨hnil, ?_⟩
    rw [deleteLine, hnil]
    rfl
  · refine Or.inl (lines_join hnil fun line hline => ?_)
    exact not_mem_of_mem_lines (List.mem_of_mem_eraseIdx hline)

/-- A line with something added directly behind its last visible code point. -/
def attach (line mark : Text) : Text :=
  line.trimRight ++ (mark ++ line.rtakeWhile CodePoint.isBlank)

theorem trim_attach {line mark : Text} (hline : line.trim ≠ []) (hmark : IsVisible mark) :
    (line.attach mark).trim = line.trim ++ mark := by
  obtain ⟨left, right, hsplit, hleft, hright⟩ := exists_trim line
  have hfront : line.trimRight = left ++ line.trim := by
    conv_lhs => rw [hsplit, ← List.append_assoc]
    rw [trimRight_append_of_blank hright]
    apply trimRight_eq_self
    intro c hc
    rw [List.getLast?_append_of_ne_nil _ hline] at hc
    exact isBlank_last_trim hc
  have hback : ∀ c ∈ line.rtakeWhile CodePoint.isBlank, c.isBlank = true :=
    fun _ hc => List.mem_rtakeWhile_imp hc
  have hshape : line.attach mark =
      left ++ ((line.trim ++ mark) ++ line.rtakeWhile CodePoint.isBlank) := by
    rw [attach, hfront]
    simp
  have hhead : (line.trim ++ mark).trimLeft = line.trim ++ mark := by
    apply trimLeft_eq_self
    intro c hc
    rw [List.head?_append_of_ne_nil _ hline] at hc
    exact isBlank_head_trim hc
  rw [hshape, trim_padded hleft hback, trim, hhead]
  apply trimRight_eq_self
  intro c hc
  rw [List.getLast?_append_of_ne_nil _ hmark.1] at hc
  exact hmark.2 c (List.mem_of_getLast? hc)

def attachToLine (source : Text) (number : Nat) (mark : Text) : Text :=
  join "\n" (source.lines.modify (number - 1) (·.attach mark))

theorem lines_attachToLine {mark : Text} (hmark : CodePoint.ofChar '\n' ∉ mark) (source : Text)
    (number : Nat) :
    (source.attachToLine number mark).lines = source.lines.modify (number - 1) (·.attach mark) := by
  apply lines_join_modify
  intro line hline hmem
  rw [attach, List.mem_append, List.mem_append] at hmem
  rcases hmem with hmem | hmem | hmem
  · exact hline ((List.rdropWhile_prefix _ _).subset hmem)
  · exact hmark hmem
  · exact hline ((List.rtakeWhile_suffix _ _).subset hmem)

theorem map_lines_appendToLine {α : Type} {f : Text → α} {mark : Text}
    (hmark : CodePoint.ofChar '\n' ∉ mark) (hf : ∀ line, f (line ++ mark) = f line) (source : Text)
    (number : Nat) : (source.appendToLine number mark).lines.map f = source.lines.map f := by
  have hmodify : ∀ (lines : List Text) (i : Nat),
      (lines.modify i (· ++ mark)).map f = lines.map f := by
    intro lines i
    induction lines generalizing i with
    | nil => simp
    | cons line lines ih =>
      cases i with
      | zero => simp [hf]
      | succ i => simp [ih]
  rw [lines_appendToLine hmark, hmodify]

def fromPlace (source : Text) (line column : Nat) : Text :=
  (join "\n" (source.lines.drop (line - 1))).drop (column - 1)

private theorem rtakeWhile_append_newline (line rest : Text) :
    (line ++ CodePoint.ofChar '\n' :: rest).rtakeWhile CodePoint.inLine =
      rest.rtakeWhile CodePoint.inLine := by
  induction rest using List.reverseRecOn with
  | nil => exact List.rtakeWhile_concat_neg _ _ _ (by simp [CodePoint.inLine])
  | append_singleton rest c ih =>
    rw [← List.cons_append, ← List.append_assoc, List.rtakeWhile_concat, List.rtakeWhile_concat, ih]

/-- A front of a text completes a line with each of its line feeds, and what it holds of the next
line is what follows the last of them. -/
theorem fromPlace_append (before rest : Text) :
    (before ++ rest).fromPlace (1 + before.count (CodePoint.ofChar '\n'))
      (1 + (before.rtakeWhile CodePoint.inLine).length) = rest := by
  rw [fromPlace, Nat.add_sub_cancel_left, Nat.add_sub_cancel_left]
  induction before using lines_induction with
  | last line hline =>
    have hall : line.rtakeWhile CodePoint.inLine = line :=
      List.rtakeWhile_eq_self_iff.mpr fun c => CodePoint.inLine_of_mem hline
    rw [List.count_eq_zero.mpr hline, List.drop_zero, join_lines, hall, List.drop_left]
  | next line front hline ih =>
    have hsplit : line ++ CodePoint.ofChar '\n' :: front ++ rest =
        line ++ CodePoint.ofChar '\n' :: (front ++ rest) := by
      simp
    rw [rtakeWhile_append_newline, hsplit, lines_append_newline hline, List.count_append,
      List.count_eq_zero.mpr hline, Nat.zero_add, List.count_cons_self, List.drop_succ_cons]
    exact ih

end SnippetReview.Text
