import Mathlib.Algebra.Group.Nat.Defs
import SnippetReview.Proofs.Text.Basic
import SnippetReview.Text.Numeral

/-!
Reading inverts writing for whole numbers: a decimal numeral of a writable number is read as that
number.
-/

set_option autoImplicit false

namespace SnippetReview

namespace CodePoint

theorem isAsciiDigit_iff {c : CodePoint} :
    c.isAsciiDigit = true ↔ 0x30 ≤ c.value ∧ c.value ≤ 0x39 := by
  simp [isAsciiDigit]

private theorem digit?_of_isAsciiDigit {c : CodePoint} (hc : c.isAsciiDigit = true) :
    c.digit? = some (c.value - 0x30) := by
  simp [digit?, hc]

end CodePoint

namespace Numeral

theorem ofInt_eq (n : Int) :
    ofInt n = (if n < 0 then [CodePoint.ofChar '-'] else []) ++ ofNat n.natAbs := by
  cases n with
  | ofNat n => simp [ofInt]
  | negSucc n => simp [ofInt, Int.negSucc_lt_zero]

theorem ofNat_ne_nil (n : Nat) : ofNat n ≠ [] := by
  simp [ofNat]

theorem isAsciiDigit_of_mem_ofNat {n : Nat} {c : CodePoint} (hc : c ∈ ofNat n) :
    c.isAsciiDigit = true := by
  obtain ⟨digit, hdigit, rfl⟩ := List.mem_map.mp hc
  have hrange := Char.isDigit_iff_toNat.mp
    (Nat.isDigit_of_mem_toDigits (by decide) (by decide) hdigit)
  exact CodePoint.isAsciiDigit_iff.mpr hrange

private theorem digits?_of_ascii (text : Text) (hne : text ≠ [])
    (hdigits : ∀ c ∈ text, c.isAsciiDigit = true) :
    digits? text = some (text.map fun c => c.value - 0x30) := by
  induction text with
  | nil => exact absurd rfl hne
  | cons c rest ih =>
    have hc : c.digit? = some (c.value - 0x30) :=
      CodePoint.digit?_of_isAsciiDigit (hdigits c (by simp))
    cases rest with
    | nil => simp [digits?, hc]
    | cons d rest =>
      have hd := CodePoint.isAsciiDigit_iff.mp (hdigits d (by simp))
      have hmark : d ≠ CodePoint.ofChar '_' := CodePoint.ne_of_value_ne (by simp; omega)
      have hrest := ih (by simp) (fun e he => hdigits e (List.mem_cons_of_mem c he))
      simp [digits?, hc, hmark, hrest]

private theorem ofDigits_ofNat (n : Nat) :
    ofDigits ((ofNat n).map fun c => c.value - 0x30) = n := by
  have hspell := Nat.ofDigitChars_ten_toDigits (n := n)
  rw [Nat.ofDigitChars_eq_foldl] at hspell
  simpa [ofDigits, ofNat, List.foldl_map] using hspell

private theorem nat?_ofNat {n : Nat} (hn : (ofNat n).length ≤ maxDigits) :
    nat? (ofNat n) = some n := by
  have hread := digits?_of_ascii (ofNat n) (ofNat_ne_nil n) fun _ => isAsciiDigit_of_mem_ofNat
  simp [nat?, hread, hn, ofDigits_ofNat]

theorem writable_iff {n : Int} : writable n = true ↔ n.natAbs < 10 ^ maxDigits := by
  rw [writable, decide_eq_true_eq, ofNat, List.length_map]
  exact Nat.length_toDigits_le_iff (by decide) (by decide)

theorem signed?_ofInt {n : Int} (hn : writable n = true) : signed? (ofInt n) = some n := by
  have hread : nat? (ofNat n.natAbs) = some n.natAbs := nat?_ofNat (by simpa [writable] using hn)
  rw [ofInt_eq]
  by_cases hneg : n < 0
  · have hvalue : -(n.natAbs : Int) = n := by omega
    rw [if_pos hneg, List.singleton_append, signed?, if_pos rfl, hread]
    exact congrArg some hvalue
  · obtain ⟨c, rest, htext⟩ := List.exists_cons_of_ne_nil (ofNat_ne_nil n.natAbs)
    have hc := CodePoint.isAsciiDigit_iff.mp
      (isAsciiDigit_of_mem_ofNat (htext ▸ List.mem_cons_self))
    have hminus : c ≠ CodePoint.ofChar '-' := CodePoint.ne_of_value_ne (by simp; omega)
    have hplus : c ≠ CodePoint.ofChar '+' := CodePoint.ne_of_value_ne (by simp; omega)
    rw [htext] at hread ⊢
    simp [hneg, signed?, hminus, hplus, hread]
    omega

theorem exists_digit_of_mem_hex {width n : Nat} {c : CodePoint} (hc : c ∈ hex width n) :
    ∃ digit < 16, c = CodePoint.ofChar (Nat.digitChar digit) := by
  induction width generalizing n with
  | zero => cases hc
  | succ width ih =>
    rw [hex, List.mem_append, List.mem_singleton] at hc
    rcases hc with hc | rfl
    · exact ih hc
    · exact ⟨n % 16, Nat.mod_lt n (by decide), rfl⟩

end Numeral

end SnippetReview
