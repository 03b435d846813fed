import Mathlib.Data.List.TakeDrop
import SnippetReview.Json.Printer
import SnippetReview.Json.Reader
import SnippetReview.Proofs.Text.Numeral

/-!
JSON integers: a writable integer is read back from its numeral, whatever text follows that could
not go on with a number.
-/

set_option autoImplicit false

namespace SnippetReview

private theorem Numeral.eq_zero_of_ofNat_eq_cons {n : Nat} {more : Text}
    (h : ofNat n = CodePoint.ofChar '0' :: more) : n = 0 := by
  induction n using Nat.strongRecOn generalizing more with
  | _ n ih =>
    by_cases hn : n < 10
    · rw [ofNat, Nat.toDigits_of_lt_base hn, List.map_singleton, List.cons.injEq] at h
      exact Nat.digitChar_eq_zero.mp (CodePoint.ofChar_injective h.1)
    · obtain ⟨first, front, hfront⟩ := List.exists_cons_of_ne_nil (ofNat_ne_nil (n / 10))
      rw [ofNat, Nat.toDigits_of_base_le (by decide) (by omega), List.map_append,
        show (Nat.toDigits 10 (n / 10)).map CodePoint.ofChar = first :: front from hfront,
        List.cons_append, List.cons.injEq] at h
      rw [h.1] at hfront
      have hzero : n / 10 = 0 := ih (n / 10) (by omega) hfront
      omega

namespace Json

/-- A text that cannot go on with a number. -/
def EndsNumber (rest : Text) : Prop :=
  ∀ c ∈ rest.head?, c.isAsciiDigit = false ∧ c ≠ CodePoint.ofChar '.' ∧
    c ≠ CodePoint.ofChar 'e' ∧ c ≠ CodePoint.ofChar 'E'

theorem endsNumber_nil : EndsNumber [] := by
  simp [EndsNumber]

theorem endsNumber_cons {c : CodePoint} (rest : Text) (hdigit : c.isAsciiDigit = false)
    (hpoint : c ≠ CodePoint.ofChar '.') (hlower : c ≠ CodePoint.ofChar 'e')
    (hupper : c ≠ CodePoint.ofChar 'E') : EndsNumber (c :: rest) := by
  intro d hd
  cases hd
  exact ⟨hdigit, hpoint, hlower, hupper⟩

private theorem spanDigits_append {digits rest : Text}
    (hdigits : ∀ c ∈ digits, c.isAsciiDigit = true)
    (hrest : EndsNumber rest) : spanDigits (digits ++ rest) = (digits, rest) := by
  have hstop : rest.takeWhile CodePoint.isAsciiDigit = [] ∧
      rest.dropWhile CodePoint.isAsciiDigit = rest := by
    cases rest with
    | nil => exact ⟨rfl, rfl⟩
    | cons c rest => simp [(hrest c rfl).1]
  rw [spanDigits, List.span_eq_takeWhile_dropWhile, List.takeWhile_append_of_pos hdigits,
    List.dropWhile_append_of_pos hdigits, hstop.1, hstop.2, List.append_nil]

private theorem fraction_eq_nil {rest : Text} (hrest : EndsNumber rest) : fraction rest = [] := by
  cases rest with
  | nil => rfl
  | cons c rest => simp [fraction, (hrest c rfl).2.1]

private theorem exponent_eq_nil {rest : Text} (hrest : EndsNumber rest) : exponent rest = [] := by
  cases rest with
  | nil => rfl
  | cons c rest => simp [exponent, (hrest c rfl).2.2.1, (hrest c rfl).2.2.2]

private theorem magnitude?_ofNat (n : Nat) {rest : Text} (hrest : EndsNumber rest) :
    magnitude? (Numeral.ofNat n ++ rest) = some (Numeral.ofNat n, [], []) := by
  have hspan : spanDigits (Numeral.ofNat n ++ rest) = (Numeral.ofNat n, rest) :=
    spanDigits_append (fun _ => Numeral.isAsciiDigit_of_mem_ofNat) hrest
  obtain ⟨first, more, htext⟩ := List.exists_cons_of_ne_nil (Numeral.ofNat_ne_nil n)
  have hwhole :
      (if first = CodePoint.ofChar '0' then [first] else first :: more) = first :: more := by
    split
    · next hzero =>
      rw [hzero] at htext
      have hn : n = 0 := Numeral.eq_zero_of_ofNat_eq_cons htext
      rw [hn] at htext
      simpa [Numeral.ofNat, hzero] using htext
    · rfl
  rw [htext] at hspan ⊢
  simp only [magnitude?, hspan, hwhole, List.drop_left, fraction_eq_nil hrest,
    exponent_eq_nil hrest, List.length_nil, List.drop_zero]

private theorem number?_ofInt {n : Int} (hn : Numeral.writable n = true) {rest : Text}
    (hrest : EndsNumber rest) : number? (Numeral.ofInt n ++ rest) = some (int n, rest) := by
  have hsigned := Numeral.signed?_ofInt hn
  have hmagnitude := magnitude?_ofNat n.natAbs hrest
  rw [Numeral.ofInt_eq] at hsigned ⊢
  obtain ⟨first, more, htext⟩ := List.exists_cons_of_ne_nil (Numeral.ofNat_ne_nil n.natAbs)
  have hfirst := CodePoint.isAsciiDigit_iff.mp
    (Numeral.isAsciiDigit_of_mem_ofNat (htext ▸ List.mem_cons_self))
  have hminus : first ≠ CodePoint.ofChar '-' := CodePoint.ne_of_value_ne (by simp; omega)
  by_cases hneg : n < 0
  · simp only [hneg, if_true, List.singleton_append] at hsigned ⊢
    simp [number?, hmagnitude, hsigned]
  · simp only [hneg, if_false, List.nil_append] at hsigned ⊢
    rw [htext] at hmagnitude hsigned ⊢
    rw [List.cons_append] at hmagnitude ⊢
    simp [number?, hminus, hmagnitude, hsigned]

theorem exists_ofInt_eq_cons (n : Int) : ∃ sign digit more,
    Numeral.ofInt n = sign ++ digit :: more ∧ digit.isAsciiDigit = true ∧
      (sign = [] ∨ sign = [CodePoint.ofChar '-']) := by
  obtain ⟨first, more, htext⟩ := List.exists_cons_of_ne_nil (Numeral.ofNat_ne_nil n.natAbs)
  have hfirst : first.isAsciiDigit = true :=
    Numeral.isAsciiDigit_of_mem_ofNat (htext ▸ List.mem_cons_self)
  refine ⟨if n < 0 then [CodePoint.ofChar '-'] else [], first, more, ?_, hfirst, ?_⟩
  · rw [Numeral.ofInt_eq, htext]
  · split
    · exact Or.inr rfl
    · exact Or.inl rfl

private theorem find?_words_ofInt (n : Int) (rest : Text) :
    (words.find? fun word => word.1.isPrefixOf (Numeral.ofInt n ++ rest)) = none := by
  obtain ⟨sign, digit, more, hnumeral, hdigit, hsign⟩ := exists_ofInt_eq_cons n
  rw [CodePoint.isAsciiDigit_iff] at hdigit
  have hletter : ∀ c : Char, 0x39 < c.toNat → (CodePoint.ofChar c == digit) = false := by
    intro c hc
    have hne : CodePoint.ofChar c ≠ digit := CodePoint.ne_of_value_ne (by simp; omega)
    simpa using hne
  have hn := hletter 'n' (by decide)
  have ht := hletter 't' (by decide)
  have hf := hletter 'f' (by decide)
  have hN := hletter 'N' (by decide)
  have hI := hletter 'I' (by decide)
  have hminus : ∀ c : Char, c ≠ '-' → (CodePoint.ofChar c == CodePoint.ofChar '-') = false := by
    intro c hc
    simpa using fun he => hc (CodePoint.ofChar_injective he)
  have hsecond : (CodePoint.ofChar '-' == digit) = false := by
    have hne : CodePoint.ofChar '-' ≠ digit := CodePoint.ne_of_value_ne (by simp; omega)
    simpa using hne
  rw [hnumeral]
  rcases hsign with rfl | rfl
  · simp [words, Text.ofString, List.isPrefixOf, hn, ht, hf, hN, hI, hsecond]
  · simp [words, Text.ofString, List.isPrefixOf, hminus, hI]

theorem scalar?_ofInt {n : Int} (hn : Numeral.writable n = true) {rest : Text}
    (hrest : EndsNumber rest) : scalar? (Numeral.ofInt n ++ rest) = some (int n, rest) := by
  simp only [scalar?, find?_words_ofInt, number?_ofInt hn hrest]

end Json

end SnippetReview
