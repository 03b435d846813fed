import Mathlib.Order.Bounds.Basic
import SnippetReview.Proofs.Text.Pattern

/-!
Greedy repetition. A run of a class gives up one code point at a time, so that what is found behind it
is found behind the longest part of the run behind which there is anything to find.
-/

set_option autoImplicit false

namespace SnippetReview

section Search

variable {α β γ : Type}

private theorem findSome?_flatMap (list : List α) (f : α → List β) (g : β → Option γ) :
    (list.flatMap f).findSome? g = list.findSome? fun a => (f a).findSome? g := by
  induction list with
  | nil => rfl
  | cons a list ih =>
    rw [List.flatMap_cons, List.findSome?_append, ih, List.findSome?_cons]
    cases (f a).findSome? g <;> rfl

private theorem exists_isGreatest_of_findSome? {f : Nat → Option α} {n : Nat} {found : α}
    (h : (List.range n).reverse.findSome? f = some found) :
    ∃ i, IsGreatest {i | i < n ∧ (f i).isSome = true} i ∧ f i = some found := by
  induction n with
  | zero => cases h
  | succ n ih =>
    rw [List.range_succ, List.reverse_append, List.reverse_singleton, List.singleton_append,
      List.findSome?_cons] at h
    cases hn : f n with
    | some value =>
      rw [hn] at h
      refine ⟨n, ⟨⟨Nat.lt_succ_self n, by rw [hn]; rfl⟩, fun i hi => Nat.le_of_lt_succ hi.1⟩, ?_⟩
      exact hn.trans h
    | none =>
      rw [hn] at h
      obtain ⟨i, ⟨⟨hlt, hsome⟩, hgreatest⟩, hfound⟩ := ih h
      refine ⟨i, ⟨⟨Nat.lt_succ_of_lt hlt, hsome⟩, ?_⟩, hfound⟩
      rintro j ⟨hj, hsome'⟩
      have hne : j ≠ n := by
        rintro rfl
        rw [hn] at hsome'
        cases hsome'
      exact hgreatest ⟨by omega, hsome'⟩

end Search

namespace Cursor

def advance (here : Cursor) (n : Nat) : Cursor :=
  ⟨lastOf here.before (here.rest.take n), here.rest.drop n⟩

@[simp] theorem advance_zero (here : Cursor) : here.advance 0 = here := by
  simp [advance]

private theorem advance_cons (before : Option CodePoint) (c : CodePoint) (text : Text) (n : Nat) :
    advance ⟨before, c :: text⟩ (n + 1) = advance ⟨some c, text⟩ n := by
  simp only [advance, List.take_succ_cons, List.drop_succ_cons, lastOf_cons]

end Cursor

namespace Pattern

open Cursor

private theorem reach_eq (accepts : CodePoint → Bool) (before : Option CodePoint) (text : Text)
    (nearer : List Cursor) : reach accepts before text nearer =
      (List.range ((text.takeWhile accepts).length + 1)).reverse.map (advance ⟨before, text⟩) ++
        nearer := by
  induction text generalizing before nearer with
  | nil => simp [reach]
  | cons c text ih =>
    rw [reach]
    split
    · next hc =>
      have hrange : List.range ((text.takeWhile accepts).length + 1 + 1) =
          0 :: (List.range ((text.takeWhile accepts).length + 1)).map Nat.succ :=
        List.range_succ_eq_map
      have hshift : advance ⟨before, c :: text⟩ ∘ Nat.succ = advance ⟨some c, text⟩ :=
        funext (advance_cons before c text)
      rw [ih, List.takeWhile_cons_of_pos hc, List.length_cons, hrange, List.reverse_cons,
        List.map_append, ← List.map_reverse, List.map_map, hshift, List.append_assoc]
      simp
    · next hc =>
      rw [List.takeWhile_cons_of_neg hc]
      simp

private theorem ends_atLeastOne (accepts : CodePoint → Bool) (here : Cursor) :
    (atLeastOne accepts).ends here =
      (List.range (here.rest.takeWhile accepts).length).reverse.map fun n => here.advance (n + 1) := by
  obtain ⟨before, text⟩ := here
  cases text with
  | nil => rfl
  | cons c text =>
    rw [atLeastOne, ends, ends]
    cases hc : accepts c with
    | false =>
      rw [List.takeWhile_cons_of_neg (by simp [hc])]
      simp [hc]
    | true =>
      rw [List.takeWhile_cons_of_pos hc, List.length_cons]
      simp [hc, ends, reach_eq, advance_cons]

private theorem head?_ends_atLeastOne (accepts : CodePoint → Bool) (here : Cursor) :
    ((atLeastOne accepts).ends here).head?.map here.upTo =
      if here.rest.head?.any accepts then some (here.rest.takeWhile accepts) else none := by
  obtain ⟨before, text⟩ := here
  rw [← partAfter_empty]
  split
  · next hstart => exact partAfter_atLeastOne (by simp [ends]) (by simp [ends]) hstart
  · next hstart =>
    have hrun : text.takeWhile accepts = [] := by
      cases text with
      | nil => rfl
      | cons c text => exact List.takeWhile_cons_of_neg hstart
    rw [partAfter_empty, ends_atLeastOne, hrun]
    rfl

theorem partAfter_append (lead gap part : Pattern) (here : Cursor) :
    partAfter (lead ++ gap) part here = (lead.ends here).findSome? (partAfter gap part) :=
  findSome?_flatMap ..

section Run

variable {gap part : CodePoint → Bool} {here : Cursor} {n : Nat}

private theorem partAfter_run : partAfter (atLeastOne gap) (atLeastOne part) here =
    (List.range (here.rest.takeWhile gap).length).reverse.findSome? fun n =>
      if (here.rest.drop (n + 1)).head?.any part
      then some ((here.rest.drop (n + 1)).takeWhile part) else none := by
  rw [partAfter, ends_atLeastOne, List.findSome?_map]
  congr 1
  funext n
  exact head?_ends_atLeastOne part (here.advance (n + 1))

/-- The second run begins as late as it can. -/
theorem exists_of_partAfter_run {found : Text}
    (h : partAfter (atLeastOne gap) (atLeastOne part) here = some found) :
    ∃ n, IsGreatest {n | n < (here.rest.takeWhile gap).length ∧
        (here.rest.drop (n + 1)).head?.any part = true} n ∧
      found = (here.rest.drop (n + 1)).takeWhile part := by
  rw [partAfter_run] at h
  obtain ⟨n, hn, hfound⟩ := exists_isGreatest_of_findSome? h
  simp only [Option.isSome_ite] at hn
  refine ⟨n, hn, ?_⟩
  rw [if_pos hn.1.2, Option.some.injEq] at hfound
  exact hfound.symm

theorem isSome_partAfter_run (hn : n < (here.rest.takeWhile gap).length)
    (hpart : (here.rest.drop (n + 1)).head?.any part = true) :
    (partAfter (atLeastOne gap) (atLeastOne part) here).isSome = true := by
  rw [partAfter_run, List.findSome?_isSome_iff]
  refine ⟨n, by simpa using hn, ?_⟩
  rw [if_pos hpart]
  rfl

end Run

end Pattern

end SnippetReview
