import SnippetReview.Proofs.Text.Lines
import SnippetReview.Rule.Balance

/-!
What a list of rules reports, put together from lines and from rules, and when it is the same for
two snippets.
-/

set_option autoImplicit false

namespace SnippetReview

theorem SourceRule.check_append (rules more : List SourceRule) (source : Text) :
    check (rules ++ more) source = check rules source ++ check more source := by
  simp [check]

theorem SourceRule.exists_of_mem_check {rules : List SourceRule} {source : Text} {d : Diagnostic}
    (h : d ∈ check rules source) : ∃ rule ∈ rules, rule.report source = d := by
  obtain ⟨rule, hrule, hd⟩ := List.mem_map.mp h
  exact ⟨rule, List.mem_of_mem_filter hrule, hd⟩

theorem SourceRule.filter_check_eq_nil {rules : List SourceRule} {source : Text}
    {keep : Diagnostic → Bool} (h : ∀ rule ∈ rules, keep (rule.report source) = false) :
    (check rules source).filter keep = [] := by
  rw [List.filter_eq_nil_iff]
  intro d hd
  obtain ⟨rule, hrule, rfl⟩ := exists_of_mem_check hd
  simp [h rule hrule]

theorem SourceRule.check_congr {rules : List SourceRule} {source other : Text}
    (h : ∀ rule ∈ rules, rule.fires source = rule.fires other ∧
      rule.report source = rule.report other) : check rules source = check rules other := by
  rw [check, check, List.filter_congr fun rule hrule => (h rule hrule).1]
  exact List.map_congr_left fun rule hrule => (h rule (List.mem_of_mem_filter hrule)).2

namespace LineRule

variable {rules : List LineRule} {skips : Text → Bool}

theorem checkLines_append (number : Int) (lines more : List Text) :
    checkLines rules skips number (lines ++ more) = checkLines rules skips number lines ++
      checkLines rules skips (number + lines.length) more := by
  induction lines generalizing number with
  | nil => simp [checkLines]
  | cons line lines ih =>
    rw [List.cons_append, checkLines, checkLines, ih, List.append_assoc, List.length_cons,
      Int.natCast_succ, Int.add_assoc, Int.add_comm 1]

theorem checkLine_singleton (rule : LineRule) (number : Int) (line : Text) :
    checkLine [rule] skips number line =
      if skips line.trim = false ∧ rule.fires line line.trim = true then
        [rule.report line line.trim number] else [] := by
  rw [checkLine]
  cases skips line.trim <;> cases hfires : rule.fires line line.trim <;> simp [hfires]

theorem checkLine_of_mem_singleton {rule : LineRule} {number : Int} {line : Text} {d : Diagnostic}
    (h : d ∈ checkLine [rule] skips number line) :
    d = rule.report line line.trim number ∧ checkLine [rule] skips number line = [d] := by
  rw [checkLine_singleton] at h ⊢
  split at h
  · next hfires =>
    rw [List.mem_singleton] at h
    exact ⟨h, by rw [if_pos hfires, h]⟩
  · simp at h

theorem checkLine_congr {number : Int} {line other : Text}
    (hskips : skips line.trim = skips other.trim)
    (h : ∀ rule ∈ rules, rule.fires line line.trim = rule.fires other other.trim ∧
      rule.report line line.trim number = rule.report other other.trim number) :
    checkLine rules skips number line = checkLine rules skips number other := by
  rw [checkLine, checkLine, hskips]
  split
  · rfl
  · rw [List.filter_congr fun rule hrule => (h rule hrule).1]
    exact List.map_congr_left fun rule hrule => (h rule (List.mem_of_mem_filter hrule)).2

theorem checkLines_modify {f : Text → Text}
    (h : ∀ number line, checkLine rules skips number (f line) = checkLine rules skips number line)
    (number : Int) (lines : List Text) (i : Nat) :
    checkLines rules skips number (lines.modify i f) = checkLines rules skips number lines := by
  induction lines generalizing number i with
  | nil => simp
  | cons line lines ih =>
    cases i with
    | zero => rw [List.modify_zero_cons, checkLines, checkLines, h]
    | succ i => rw [List.modify_succ_cons, checkLines, checkLines, ih]

theorem exists_of_mem_checkLines {number : Int} {lines : List Text} {d : Diagnostic}
    (h : d ∈ checkLines rules skips number lines) : ∃ front line back,
      lines = front ++ line :: back ∧ d ∈ checkLine rules skips (number + front.length) line := by
  induction lines generalizing number with
  | nil => simp [checkLines] at h
  | cons line lines ih =>
    rw [checkLines, List.mem_append] at h
    obtain h | h := h
    · exact ⟨[], line, lines, rfl, by simpa using h⟩
    · obtain ⟨front, reported, back, rfl, hmem⟩ := ih h
      refine ⟨line :: front, reported, back, rfl, ?_⟩
      rwa [List.length_cons, Int.natCast_succ, Int.add_comm (front.length : Int), ← Int.add_assoc]

theorem checkLine_append (rules more : List LineRule) (number : Int) (line : Text) :
    checkLine (rules ++ more) skips number line =
      checkLine rules skips number line ++ checkLine more skips number line := by
  rw [checkLine, checkLine, checkLine]
  split
  · rfl
  · rw [List.filter_append, List.map_append]

theorem exists_of_mem_checkLine {number : Int} {line : Text} {d : Diagnostic}
    (h : d ∈ checkLine rules skips number line) :
    ∃ rule ∈ rules, rule.report line line.trim number = d := by
  rw [checkLine] at h
  split at h
  · simp at h
  · obtain ⟨rule, hrule, hd⟩ := List.mem_map.mp h
    exact ⟨rule, List.mem_of_mem_filter hrule, hd⟩

/-- If each rule either answers alike for two lines and its report is kept, or stays silent about
the second line and its report is left out, then of the reports those that are kept remain. -/
theorem checkLine_eq_filter {keep : Diagnostic → Bool} {number : Int} {line other : Text}
    (hskips : skips other.trim = skips line.trim)
    (h : ∀ rule ∈ rules,
      (keep (rule.report line line.trim number) = true ∧
        rule.fires other other.trim = rule.fires line line.trim ∧
        rule.report other other.trim number = rule.report line line.trim number) ∨
      (keep (rule.report line line.trim number) = false ∧
        rule.fires other other.trim = false)) :
    checkLine rules skips number other = (checkLine rules skips number line).filter keep := by
  induction rules with
  | nil => simp [checkLine]
  | cons rule rules ih =>
    rw [List.forall_mem_cons] at h
    have hrule : checkLine [rule] skips number other =
        (checkLine [rule] skips number line).filter keep := by
      rw [checkLine_singleton, checkLine_singleton, hskips]
      obtain ⟨hkeep, hfires, hreport⟩ | ⟨hkeep, hfires⟩ := h.1
      · rw [hfires, hreport, apply_ite (List.filter keep), List.filter_singleton, hkeep]
        rfl
      · rw [if_neg (by simp [hfires]), apply_ite (List.filter keep), List.filter_singleton, hkeep]
        simp
    rw [← List.singleton_append, checkLine_append, checkLine_append, List.filter_append, hrule,
      ih h.2]

def NamesLine (rule : LineRule) : Prop :=
  ∀ line trimmed number, (rule.report line trimmed number).line = some number

section NamesLine

variable (hrules : ∀ rule ∈ rules, rule.NamesLine)

include hrules

theorem line_of_mem_checkLine {number : Int} {line : Text} {d : Diagnostic}
    (h : d ∈ checkLine rules skips number line) : d.line = some number := by
  obtain ⟨rule, hrule, rfl⟩ := exists_of_mem_checkLine h
  exact hrules rule hrule line line.trim number

private theorem line_of_mem_checkLines {number : Int} {lines : List Text} {d : Diagnostic}
    (h : d ∈ checkLines rules skips number lines) :
    ∃ n : Nat, n < lines.length ∧ d.line = some (number + n) := by
  obtain ⟨front, line, back, rfl, hline⟩ := exists_of_mem_checkLines h
  exact ⟨front.length, by simp, line_of_mem_checkLine hrules hline⟩

theorem filter_checkLines_eq_checkLine (number : Int) (front : List Text) (line : Text)
    (back : List Text) :
    (checkLines rules skips number (front ++ line :: back)).filter
        (fun d => d.line = some (number + front.length)) =
      checkLine rules skips (number + front.length) line := by
  have hbefore : (checkLines rules skips number front).filter
      (fun d => d.line = some (number + front.length)) = [] := by
    rw [List.filter_eq_nil_iff]
    intro d hd
    obtain ⟨n, hn, hline⟩ := line_of_mem_checkLines hrules hd
    rw [hline, decide_eq_true_eq, Option.some.injEq]
    omega
  have hhere : (checkLine rules skips (number + front.length) line).filter
      (fun d => d.line = some (number + front.length)) =
        checkLine rules skips (number + front.length) line := by
    rw [List.filter_eq_self]
    intro d hd
    rw [line_of_mem_checkLine hrules hd, decide_eq_true_eq]
  have hbehind : (checkLines rules skips (number + front.length + 1) back).filter
      (fun d => d.line = some (number + front.length)) = [] := by
    rw [List.filter_eq_nil_iff]
    intro d hd
    obtain ⟨n, -, hline⟩ := line_of_mem_checkLines hrules hd
    rw [hline, decide_eq_true_eq, Option.some.injEq]
    omega
  rw [checkLines_append, checkLines, List.filter_append, List.filter_append, hbefore, hhere,
    hbehind, List.nil_append, List.append_nil]

/-- A change that takes one report away from a line takes it away from the whole. -/
theorem checkLines_modify_eq_erase {f : Text → Text} {number : Int} {front back : List Text}
    {line : Text} {d : Diagnostic}
    (hd : d ∈ checkLine rules skips (number + front.length) line)
    (hline : checkLine rules skips (number + front.length) (f line) =
      (checkLine rules skips (number + front.length) line).erase d) :
    checkLines rules skips number ((front ++ line :: back).modify front.length f) =
      (checkLines rules skips number (front ++ line :: back)).erase d := by
  have hmodify : (front ++ line :: back).modify front.length f = front ++ f line :: back := by
    rw [List.modify_eq_take_cons_drop (by simp)]
    simp
  have hbefore : d ∉ checkLines rules skips number front := by
    intro hmem
    obtain ⟨n, hn, hnumber⟩ := line_of_mem_checkLines hrules hmem
    rw [line_of_mem_checkLine hrules hd, Option.some.injEq] at hnumber
    omega
  rw [hmodify, checkLines_append, checkLines_append, checkLines, checkLines, hline,
    List.erase_append_right _ hbefore, List.erase_append_left _ hd]

end NamesLine

/-- A rule that answers as if each line came trimmed. -/
def SeesTrimmed (rule : LineRule) : Prop :=
  ∀ line, rule.fires line line.trim = rule.fires line.trim line.trim ∧
    ∀ number, rule.report line line.trim number = rule.report line.trim line.trim number

theorem checkLine_trim (hrules : ∀ rule ∈ rules, rule.SeesTrimmed) (number : Int) (line : Text) :
    checkLine rules skips number line.trim = checkLine rules skips number line := by
  refine checkLine_congr (by rw [Text.trim_trim]) fun rule hrule => ?_
  rw [Text.trim_trim]
  exact ⟨(hrules rule hrule line).1.symm, ((hrules rule hrule line).2 number).symm⟩

private theorem checkLines_map_trim (hrules : ∀ rule ∈ rules, rule.SeesTrimmed) (number : Int)
    (lines : List Text) :
    checkLines rules skips number (lines.map Text.trim) = checkLines rules skips number lines := by
  induction lines generalizing number with
  | nil => rfl
  | cons line lines ih => rw [List.map_cons, checkLines, checkLines, ih, checkLine_trim hrules]

/-- Rules that see trimmed lines report the same of sources with the same trimmed lines. -/
theorem check_congr {source other : Text} (hrules : ∀ rule ∈ rules, rule.SeesTrimmed)
    (h : source.lines.map Text.trim = other.lines.map Text.trim) :
    check rules skips source = check rules skips other := by
  rw [check, check, ← checkLines_map_trim hrules, h, checkLines_map_trim hrules]

end LineRule

theorem check_balanceRules_congr {source other : Text}
    (h : ∀ c ∈ Text.ofString "\x7b\x7d()[]", source.count c = other.count c) :
    SourceRule.check balanceRules source = SourceRule.check balanceRules other := by
  refine SourceRule.check_congr fun rule hrule => ?_
  obtain ⟨bracket, hbracket, rfl⟩ := List.mem_map.mp hrule
  have hcounts : source.count bracket.opening = other.count bracket.opening ∧
      source.count bracket.closing = other.count bracket.closing := by
    simp only [List.mem_cons, List.not_mem_nil, or_false] at hbracket
    obtain rfl | rfl | rfl := hbracket
    · exact ⟨h _ (by decide), h _ (by decide)⟩
    · exact ⟨h _ (by decide), h _ (by decide)⟩
    · exact ⟨h _ (by decide), h _ (by decide)⟩
  simp only [Bracket.sourceRule, Bracket.isUnbalanced, hcounts, and_self]

end SnippetReview
