import Mathlib.Data.List.Range
import SnippetReview.Proofs.Rule.Basic

/-!
Which rules fire on which lines. The reports about a source are those of the rules that fire, line
by line and within a line in the order of the rules, so that no rule reports a line twice.
-/

set_option autoImplicit false

namespace SnippetReview

/-- The line that a diagnostic about a source is about, if it names one. -/
def Text.lineOf (source : Text) (d : Diagnostic) : Option Text :=
  d.line.bind fun number => source.lines[(number - 1).toNat]?

namespace LineRule

/-- A rule and a line on which it fires, each with its place: lines are counted from one, rules from
zero. -/
structure Firing where
  number : Nat
  line : Text
  index : Nat
  rule : LineRule

namespace Firing

def report (firing : Firing) : Diagnostic :=
  firing.rule.report firing.line firing.line.trim firing.number

/-- On an earlier line, or on the same line by an earlier rule. -/
def Before (firing other : Firing) : Prop :=
  firing.number < other.number ∨ firing.number = other.number ∧ firing.index < other.index

/-- The line and the rule are those of the source and of the list, the line is not skipped, and the
rule fires on it. -/
structure Occurs (rules : List LineRule) (skips : Text → Bool) (source : Text) (firing : Firing) :
    Prop where
  number_pos : 1 ≤ firing.number
  line : source.lines[firing.number - 1]? = some firing.line
  rule : rules[firing.index]? = some firing.rule
  kept : skips firing.line.trim = false
  fires : firing.rule.fires firing.line firing.line.trim = true

end Firing

variable (rules : List LineRule) (skips : Text → Bool)

def lineFirings (number : Nat) (line : Text) : List Firing :=
  (rules.zipIdx.filter fun entry => !skips line.trim && entry.1.fires line line.trim).map
    fun entry => ⟨number, line, entry.2, entry.1⟩

/-- The rules that fire on lines that are numbered from a given number on. -/
def firings (number : Nat) (lines : List Text) : List Firing :=
  (lines.zipIdx number).flatMap fun entry => lineFirings rules skips entry.2 entry.1

private theorem mem_lineFirings_iff {number : Nat} {line : Text} {firing : Firing} :
    firing ∈ lineFirings rules skips number line ↔
      firing.number = number ∧ firing.line = line ∧ rules[firing.index]? = some firing.rule ∧
        skips line.trim = false ∧ firing.rule.fires line line.trim = true := by
  obtain ⟨number', line', index, rule⟩ := firing
  simp only [lineFirings, List.mem_map, List.mem_filter, List.mem_zipIdx_iff_getElem?,
    Bool.and_eq_true, Bool.not_eq_true', Firing.mk.injEq]
  constructor
  · rintro ⟨⟨found, i⟩, ⟨hrule, hkept, hfires⟩, rfl, rfl, rfl, rfl⟩
    exact ⟨rfl, rfl, hrule, hkept, hfires⟩
  · rintro ⟨rfl, rfl, hrule, hkept, hfires⟩
    exact ⟨(rule, index), ⟨hrule, hkept, hfires⟩, rfl, rfl, rfl, rfl⟩

theorem mem_firings_iff {source : Text} {firing : Firing} :
    firing ∈ firings rules skips 1 source.lines ↔ firing.Occurs rules skips source := by
  simp only [firings, List.mem_flatMap, mem_lineFirings_iff,
    List.mem_zipIdx_iff_le_and_getElem?_sub]
  constructor
  · rintro ⟨⟨line, number⟩, ⟨hpos, hline⟩, hnumber, htext, hrule, hkept, hfires⟩
    dsimp only at hpos hline hnumber htext hkept hfires
    subst hnumber htext
    exact ⟨hpos, hline, hrule, hkept, hfires⟩
  · rintro ⟨hpos, hline, hrule, hkept, hfires⟩
    exact ⟨(firing.line, firing.number), ⟨hpos, hline⟩, rfl, rfl, hrule, hkept, hfires⟩

private theorem pairwise_zipIdx {α : Type} (l : List α) (i : Nat) :
    (l.zipIdx i).Pairwise fun a b => a.2 < b.2 := by
  rw [← List.pairwise_map (f := Prod.snd) (R := (· < ·)), List.zipIdx_map_snd]
  exact List.pairwise_lt_range'

private theorem pairwise_lineFirings (number : Nat) (line : Text) :
    (lineFirings rules skips number line).Pairwise Firing.Before := by
  rw [lineFirings, List.pairwise_map]
  refine ((pairwise_zipIdx rules 0).filter _).imp fun {entry other} hindex => ?_
  exact Or.inr ⟨rfl, hindex⟩

theorem pairwise_firings (number : Nat) (lines : List Text) :
    (firings rules skips number lines).Pairwise Firing.Before := by
  rw [firings, List.pairwise_flatMap]
  constructor
  · intro entry _
    exact pairwise_lineFirings rules skips entry.2 entry.1
  · refine (pairwise_zipIdx lines number).imp fun {entry other} hnumber => ?_
    intro firing hfiring later hlater
    left
    rw [((mem_lineFirings_iff rules skips).mp hfiring).1,
      ((mem_lineFirings_iff rules skips).mp hlater).1]
    exact hnumber

private theorem checkLine_eq_map_report (number : Nat) (line : Text) :
    checkLine rules skips number line = (lineFirings rules skips number line).map Firing.report := by
  rw [checkLine, lineFirings, List.map_map]
  cases hkept : skips line.trim with
  | true => simp
  | false =>
    have hrules : rules.zipIdx.map Prod.fst = rules := List.zipIdx_map_fst 0 rules
    conv_lhs => rw [← hrules]
    rw [List.filter_map, List.map_map]
    rfl

private theorem firings_cons (number : Nat) (line : Text) (lines : List Text) :
    firings rules skips number (line :: lines) =
      lineFirings rules skips number line ++ firings rules skips (number + 1) lines := by
  rw [firings, List.zipIdx_cons, List.flatMap_cons, firings]

private theorem checkLines_eq_map_report (number : Nat) (lines : List Text) :
    checkLines rules skips number lines = (firings rules skips number lines).map Firing.report := by
  induction lines generalizing number with
  | nil => rfl
  | cons line lines ih =>
    have hrest := ih (number + 1)
    rw [Int.natCast_succ] at hrest
    rw [checkLines, checkLine_eq_map_report, hrest, firings_cons, List.map_append]

/-- What is reported about a source is what the rules say that fire on its lines. -/
theorem check_eq_map_report (source : Text) :
    check rules skips source = (firings rules skips 1 source.lines).map Firing.report :=
  checkLines_eq_map_report rules skips 1 source.lines

theorem mem_check_iff {source : Text} {d : Diagnostic} : d ∈ check rules skips source ↔
    ∃ firing : Firing, firing.Occurs rules skips source ∧ firing.report = d := by
  rw [check_eq_map_report, List.mem_map]
  simp only [mem_firings_iff]

theorem Firing.Occurs.number_le {rules : List LineRule} {skips : Text → Bool} {source : Text}
    {firing : Firing} (h : firing.Occurs rules skips source) :
    firing.number ≤ source.count (CodePoint.ofChar '\n') + 1 := by
  obtain ⟨hlast, -⟩ := List.getElem?_eq_some_iff.mp h.line
  rw [Text.length_lines] at hlast
  omega

/-- It does not matter whether a line on which no rule fires is skipped. -/
theorem check_congr_skips {skips skips' : Text → Bool} {source : Text}
    (h : ∀ line, ∀ rule ∈ rules, rule.fires line line.trim = true →
      skips line.trim = skips' line.trim) :
    check rules skips source = check rules skips' source := by
  rw [check_eq_map_report, check_eq_map_report, firings, firings]
  refine congrArg _ (List.flatMap_congr fun entry _ => ?_)
  rw [lineFirings, lineFirings]
  refine congrArg _ (List.filter_congr fun found hfound => ?_)
  have hrule := List.mem_of_getElem? (List.mem_zipIdx_iff_getElem?.mp hfound)
  cases hfires : found.1.fires entry.1 entry.1.trim with
  | true => rw [h entry.1 found.1 hrule hfires]
  | false => rw [Bool.and_false, Bool.and_false]

private theorem Firing.Occurs.lineOf_report {rules : List LineRule} {skips : Text → Bool}
    {source : Text}
    {firing : Firing} (h : firing.Occurs rules skips source)
    (hrules : ∀ rule ∈ rules, rule.NamesLine) :
    source.lineOf firing.report = some firing.line := by
  have hnames : firing.report.line = some (firing.number : Int) :=
    hrules firing.rule (List.mem_of_getElem? h.rule) _ _ _
  have hplace : ((firing.number : Int) - 1).toNat = firing.number - 1 := by
    omega
  rw [Text.lineOf, hnames, Option.bind_some, hplace, h.line]

/-- What is skipped in addition takes away just the reports about the lines that it skips. -/
theorem check_or_skips (hrules : ∀ rule ∈ rules, rule.NamesLine) (more : Text → Bool)
    (source : Text) : check rules (fun trimmed => skips trimmed || more trimmed) source =
      (check rules skips source).filter fun d => !(source.lineOf d).any (more ·.trim) := by
  have hfirings : firings rules (fun trimmed => skips trimmed || more trimmed) 1 source.lines =
      (firings rules skips 1 source.lines).filter fun firing => !more firing.line.trim := by
    rw [firings, firings, List.filter_flatMap]
    refine List.flatMap_congr fun entry _ => ?_
    rw [lineFirings, lineFirings, List.filter_map, List.filter_filter]
    refine congrArg _ (List.filter_congr fun rule _ => ?_)
    simp only [Function.comp_apply, Bool.not_or]
    cases skips entry.1.trim <;> cases more entry.1.trim <;> simp
  rw [check_eq_map_report, check_eq_map_report, hfirings, List.filter_map]
  refine congrArg _ (List.filter_congr fun firing hfiring => ?_)
  have hline := ((mem_firings_iff rules skips).mp hfiring).lineOf_report hrules
  simp [hline]

/-- The reports of one rule about the lines of a source on which it fires, the lines being in
order. -/
structure AscendingReports (rule : LineRule) (skips : Text → Bool) (source : Text)
    (reports : List Diagnostic) : Prop where
  mem_iff : ∀ d, d ∈ reports ↔ ∃ (number : Nat) (line : Text), 1 ≤ number ∧
    source.lines[number - 1]? = some line ∧ skips line.trim = false ∧
      rule.fires line line.trim = true ∧ d = rule.report line line.trim number
  ascending : reports.Pairwise fun d e => ∃ m n : Int, d.line = some m ∧ e.line = some n ∧ m < n

theorem ascendingReports_check {rule : LineRule} (hrule : rule.NamesLine) (source : Text) :
    rule.AscendingReports skips source (check [rule] skips source) := by
  have honly : ∀ firing ∈ firings [rule] skips 1 source.lines,
      firing.Occurs [rule] skips source ∧ firing.index = 0 ∧ firing.rule = rule := by
    intro firing hfiring
    have hoccurs := (mem_firings_iff [rule] skips).mp hfiring
    obtain ⟨hindex, hsame⟩ := List.getElem?_eq_some_iff.mp hoccurs.rule
    have hzero : firing.index = 0 := by
      simpa using hindex
    exact ⟨hoccurs, hzero, by simpa [hzero] using hsame.symm⟩
  rw [check_eq_map_report]
  constructor
  · intro d
    rw [List.mem_map]
    constructor
    · rintro ⟨firing, hfiring, rfl⟩
      obtain ⟨⟨hpos, hline, -, hkept, hfires⟩, -, rfl⟩ := honly firing hfiring
      exact ⟨firing.number, firing.line, hpos, hline, hkept, hfires, rfl⟩
    · rintro ⟨number, line, hpos, hline, hkept, hfires, rfl⟩
      have hoccurs : Firing.Occurs [rule] skips source ⟨number, line, 0, rule⟩ :=
        ⟨hpos, hline, rfl, hkept, hfires⟩
      exact ⟨⟨number, line, 0, rule⟩, (mem_firings_iff [rule] skips).mpr hoccurs, rfl⟩
  · rw [List.pairwise_map]
    refine (pairwise_firings [rule] skips 1 source.lines).imp_of_mem ?_
    intro firing later hfiring hlater hbefore
    obtain ⟨-, hzero, hsame⟩ := honly firing hfiring
    obtain ⟨-, hzero', hsame'⟩ := honly later hlater
    have hnumber : firing.number < later.number := by
      rcases hbefore with hnumber | ⟨-, hindex⟩
      · exact hnumber
      · omega
    refine ⟨firing.number, later.number, ?_, ?_, by exact_mod_cast hnumber⟩
    · rw [Firing.report, hsame, hrule]
    · rw [Firing.report, hsame', hrule]

end LineRule

end SnippetReview
