import SnippetReview.Checker.JavaScript
import SnippetReview.Proofs.Text.Basic
import SnippetReview.Proofs.Text.Blank
import SnippetReview.Proofs.Text.Greedy

/-!
The detail of an error message, by its indices. Main statement: the diagnostic for a message says what
follows the first kind of error behind which anything follows, from the last place where it can begin
up to the end of the line; a message without such a place is kept whole.
-/

set_option autoImplicit false

namespace SnippetReview.JavaScript

open Cursor Pattern

/-- An index where the kind of an error ends: a colon behind a word character and in front of a
blank. -/
structure EndsKind (message : Text) (k : Nat) : Prop where
  pos : 0 < k
  word : message[k - 1]?.any CodePoint.isWord = true
  colon : message[k]? = some (CodePoint.ofChar ':')
  blank : message[k + 1]?.any CodePoint.isBlank = true

def gapEnd (message : Text) (k : Nat) : Nat :=
  k + ((message.drop k).takeWhile CodePoint.isBlank).length

/-- An index where the detail behind a colon can begin: behind at least one blank, behind no more than
the run of blanks, and not at a line feed or the end. -/
structure StartsDetail (message : Text) (k d : Nat) : Prop where
  lower : k + 2 ≤ d
  upper : d ≤ gapEnd message (k + 1)
  inLine : ∃ c, message[d]? = some c ∧ c ≠ CodePoint.ofChar '\n'

def HasDetail (message : Text) (k : Nat) : Prop :=
  EndsKind message k ∧ ∃ d, StartsDetail message k d

section Index

variable {message : Text} {k d : Nat}

private theorem startsDetail_iff : StartsDetail message k d ↔
    ∃ n, d = k + 2 + n ∧ n < ((message.drop (k + 1)).takeWhile CodePoint.isBlank).length ∧
      ((message.drop (k + 1)).drop (n + 1)).head?.any CodePoint.inLine = true := by
  have hplace : ∀ n, ((message.drop (k + 1)).drop (n + 1)).head? = message[k + 2 + n]? := by
    intro n
    rw [List.drop_drop, List.head?_drop]
    congr 1
    omega
  simp only [hplace, Option.any_eq_true, CodePoint.inLine, decide_eq_true_eq]
  constructor
  · rintro ⟨hlower, hupper, hline⟩
    rw [gapEnd] at hupper
    refine ⟨d - (k + 2), by omega, by omega, ?_⟩
    rwa [Nat.add_sub_cancel' hlower]
  · rintro ⟨n, rfl, hn, hline⟩
    refine ⟨by omega, ?_, hline⟩
    rw [gapEnd]
    omega

private theorem isSome_partAfter_of_hasDetail (h : HasDetail message k)
    (before : Option CodePoint) :
    (partAfter errorKind (.atLeastOne CodePoint.inLine) ⟨before, message.drop (k - 1)⟩).isSome =
      true := by
  obtain ⟨⟨hpos, hword, hcolon, -⟩, d, hd⟩ := h
  obtain ⟨w, hw, hisWord⟩ := (Option.any_eq_true ..).mp hword
  obtain ⟨n, -, hn, hline⟩ := startsDetail_iff.mp hd
  have hfront : message.drop (k - 1) = [w, CodePoint.ofChar ':'] ++ message.drop (k + 1) := by
    rw [Text.drop_eq_cons hw, Nat.sub_add_cancel hpos, Text.drop_eq_cons hcolon]
    rfl
  have hmiddle : Cursor.mk (some (CodePoint.ofChar ':')) (message.drop (k + 1)) ∈
      (atLeastOne CodePoint.isWord ++ char (CodePoint.ofChar ':')).ends
        ⟨before, message.drop (k - 1)⟩ := by
    rw [mem_ends_iff]
    refine ⟨_, hfront, by simp, ?_⟩
    rw [matches_append]
    exact ⟨[w], [CodePoint.ofChar ':'], rfl, by simp [hisWord], by simp⟩
  rw [errorKind, partAfter_append, List.findSome?_isSome_iff]
  exact ⟨_, hmiddle, isSome_partAfter_run hn hline⟩

private theorem endsKind_of_split {front tail : Text} {w : CodePoint} (hw : w.isWord = true)
    (htail : tail.takeWhile CodePoint.isBlank ≠ []) :
    EndsKind (front ++ w :: CodePoint.ofChar ':' :: tail) (front.length + 1) := by
  constructor
  case pos => exact Nat.succ_pos _
  case word =>
    rw [Nat.add_sub_cancel, ← Nat.add_zero front.length, Text.getElem?_length_add]
    exact hw
  case colon => rw [Text.getElem?_length_add, List.getElem?_cons_succ, List.getElem?_cons_zero]
  case blank =>
    rw [Nat.add_assoc, Text.getElem?_length_add, List.getElem?_cons_succ, List.getElem?_cons_succ]
    cases tail with
    | nil => exact absurd rfl htail
    | cons c tail =>
      by_contra hc
      exact htail (List.takeWhile_cons_of_neg hc)

/-- If the search finds nothing in front of a word, then no kind of error that has a detail ends before
this word does. -/
private theorem le_of_hasDetail {front letters rest : Text} {w : CodePoint}
    (hmessage : message = front ++ (letters ++ [w] ++ rest))
    (hletters : ∀ c ∈ letters ++ [w], c.isWord = true)
    (hfirst : ∀ earlier back : Text, message = earlier ++ back → earlier.length < front.length →
      partAfter errorKind (.atLeastOne CodePoint.inLine) ⟨lastOf none earlier, back⟩ = none)
    (hk : HasDetail message k) : (front ++ letters).length + 1 ≤ k := by
  by_contra hlt
  by_cases hword : k - 1 < front.length
  -- The search would have stopped at the word character in front of the earlier colon.
  · have hnone := hfirst (message.take (k - 1)) (message.drop (k - 1))
      (List.take_append_drop ..).symm ((List.length_take_le ..).trans_lt hword)
    have hsome := isSome_partAfter_of_hasDetail hk (lastOf none (message.take (k - 1)))
    rw [hnone] at hsome
    cases hsome
  -- A colon cannot stand within the word.
  · have hle : front.length ≤ k := (Nat.le_of_not_lt hword).trans (Nat.sub_le k 1)
    obtain ⟨i, rfl⟩ := Nat.exists_eq_add_of_le hle
    have hi : i < (letters ++ [w]).length := by
      simp only [List.length_append, List.length_singleton] at hlt ⊢
      omega
    have hcolon := hk.1.colon
    rw [hmessage, Text.getElem?_length_add, List.getElem?_append_left hi] at hcolon
    have hletter := hletters _ (List.mem_of_getElem? hcolon)
    rw [CodePoint.isWord_of_ascii (by decide)] at hletter
    revert hletter
    decide

/-- What the search finds is the detail behind the first kind of error that has one, from the last
place where it can begin. -/
private theorem exists_of_detail? {detail : Text} (h : detail? message = some detail) :
    ∃ k d, IsLeast {k | HasDetail message k} k ∧ IsGreatest {d | StartsDetail message k d} d ∧
      detail = (message.drop d).takeWhile CodePoint.inLine := by
  obtain ⟨front, back, hmessage, hfound, hfirst⟩ := findFrom_eq_some_iff.mp h
  rw [errorKind, partAfter_append] at hfound
  obtain ⟨⟨before, tail⟩, hmiddle, hdetail⟩ := List.exists_of_findSome?_eq_some hfound
  obtain ⟨matched, hback, -, hmatch⟩ := mem_ends_iff.mp hmiddle
  obtain ⟨word, colon, rfl, hword, hcolon⟩ := matches_append.mp hmatch
  obtain ⟨hne, hletters⟩ := matches_atLeastOne.mp hword
  rw [matches_char] at hcolon
  obtain ⟨letters, w, rfl⟩ := (List.eq_nil_or_concat' word).resolve_left hne
  obtain ⟨n, ⟨⟨hn, hline⟩, hlast⟩, rfl⟩ := exists_of_partAfter_run hdetail
  dsimp only at hback hn hline hlast
  subst hcolon
  obtain ⟨lead, hlead⟩ : ∃ lead, lead = front ++ letters := ⟨_, rfl⟩
  have hsplit : message = lead ++ w :: CodePoint.ofChar ':' :: tail := by
    rw [hmessage, hback, hlead]
    simp
  have hdrop : message.drop (lead.length + 1 + 1) = tail := by
    rw [hsplit, Nat.add_assoc, List.drop_length_add_append]
    rfl
  have hkind : EndsKind message (lead.length + 1) := by
    rw [hsplit]
    exact endsKind_of_split (hletters w (by simp)) (List.ne_nil_of_length_pos (Nat.zero_lt_of_lt hn))
  have hstarts : StartsDetail message (lead.length + 1) (lead.length + 1 + 2 + n) :=
    startsDetail_iff.mpr ⟨n, rfl, by rwa [hdrop], by rwa [hdrop]⟩
  refine ⟨_, _, ⟨⟨hkind, _, hstarts⟩, ?_⟩, ⟨hstarts, ?_⟩, ?_⟩
  · intro k hk
    rw [hlead]
    exact le_of_hasDetail (by rw [hmessage, hback, List.append_assoc]) hletters hfirst hk
  · intro d hd
    obtain ⟨i, rfl, hi, hstart⟩ := startsDetail_iff.mp hd
    rw [hdrop] at hi hstart
    exact Nat.add_le_add_left (hlast ⟨hi, hstart⟩) _
  · rw [← hdrop, List.drop_drop]
    congr 2
    omega

private theorem not_hasDetail_of_detail? (h : detail? message = none) (k : Nat) :
    ¬ HasDetail message k := by
  intro hk
  have hsome : (detail? message).isSome = true := isSome_findFrom_iff.mpr
    ⟨message.take (k - 1), message.drop (k - 1), (List.take_append_drop ..).symm,
      isSome_partAfter_of_hasDetail hk _⟩
  rw [h] at hsome
  cases hsome

private theorem StartsDetail.takeWhile_inLine (h : StartsDetail message k d) :
    (message.drop d).takeWhile CodePoint.inLine ≠ [] ∧
      CodePoint.ofChar '\n' ∉ (message.drop d).takeWhile CodePoint.inLine := by
  constructor
  · obtain ⟨c, hc, hline⟩ := h.inLine
    have hinLine : c.inLine = true := decide_eq_true hline
    rw [Text.drop_eq_cons hc, List.takeWhile_cons_of_pos hinLine]
    exact List.cons_ne_nil _ _
  · intro hmem
    have hfeed := List.mem_takeWhile_imp hmem
    revert hfeed
    decide

end Index

/-- The diagnostic for a message has the line and the column that it is given. If no kind of error in the
message has a detail, then it keeps the message whole and gives no advice. Else it says the detail behind
the first kind of error that has one, from the last place where this can begin up to the end of the line,
which is not empty, with the advice for it. -/
theorem diagnosticOf_cases (message : Text) (line column : Option Int) :
    ((∀ k, ¬ HasDetail message k) ∧
      diagnosticOf message line column = ⟨message, Diagnostic.error, line, column, none⟩) ∨
    ∃ k d detail, IsLeast {k | HasDetail message k} k ∧ IsGreatest {d | StartsDetail message k d} d ∧
      detail = (message.drop d).takeWhile (· ≠ CodePoint.ofChar '\n') ∧ detail ≠ [] ∧
      CodePoint.ofChar '\n' ∉ detail ∧
      diagnosticOf message line column =
        ⟨detail, Diagnostic.error, line, column, some (hint detail)⟩ := by
  cases hdetail : detail? message with
  | none =>
    refine Or.inl ⟨not_hasDetail_of_detail? hdetail, ?_⟩
    rw [diagnosticOf, hdetail]
  | some detail =>
    obtain ⟨k, d, hk, hd, hfound⟩ := exists_of_detail? hdetail
    obtain ⟨hne, hfeed⟩ := StartsDetail.takeWhile_inLine hd.1
    rw [← hfound] at hne hfeed
    refine Or.inr ⟨k, d, detail, hk, hd, hfound, hne, hfeed, ?_⟩
    rw [diagnosticOf, hdetail]

/-- The gap gives back the blank in front of the last line feed. -/
example : diagnosticOf "at x: \n \n" none (some 0) =
    ⟨" ", "error", none, some 0, some "Review the syntax near the error line."⟩ := by
  decide +kernel

end SnippetReview.JavaScript
