import SnippetReview.Proofs.Text.Numeral
import SnippetReview.Text.Quoted

/-!
Texts in quotes: all of a quoted text is printable, and the text is read back from it.
-/

set_option autoImplicit false

namespace SnippetReview

namespace CodePoint

/-- The control characters: those before the space, and the delete character with the controls that
follow it. -/
def IsControl (c : CodePoint) : Prop :=
  c.value < 0x20 ∨ 0x7F ≤ c.value ∧ c.value ≤ 0x9F

def EndsLine (c : CodePoint) : Prop :=
  c.value ∈ [0xA, 0xB, 0xC, 0xD, 0x1C, 0x1D, 0x1E, 0x85, 0x2028, 0x2029]

private theorem visible_of_isPrintable {c : CodePoint} (hc : c.isPrintable = true) :
    (0x20 ≤ c.value ∧ c.value ≤ 0x7E) ∨
      0xA0 < c.value ∧ c.value ≠ 0x2028 ∧ c.value ≠ 0x2029 := by
  have hranges : ∀ range ∈ printableRanges,
      0xA0 < range.1 ∧ (range.2 < 0x2028 ∨ 0x2029 < range.1) := by
    decide +kernel
  unfold isPrintable at hc
  by_cases hascii : c.value < 0x80
  · rw [if_pos hascii, Bool.and_eq_true, decide_eq_true_eq, decide_eq_true_eq] at hc
    exact Or.inl hc
  · rw [if_neg hascii, Ranges.contain, List.any_eq_true] at hc
    obtain ⟨range, hmem, hinside⟩ := hc
    rw [Bool.and_eq_true, decide_eq_true_eq, decide_eq_true_eq] at hinside
    have hrange := hranges range hmem
    right
    omega

theorem not_isControl_of_isPrintable {c : CodePoint} (hc : c.isPrintable = true) :
    ¬ c.IsControl := by
  have hvisible := visible_of_isPrintable hc
  unfold IsControl
  omega

theorem not_endsLine_of_isPrintable {c : CodePoint} (hc : c.isPrintable = true) :
    ¬ c.EndsLine := by
  have hvisible := visible_of_isPrintable hc
  simp only [EndsLine, List.mem_cons, List.not_mem_nil, or_false]
  omega

end CodePoint

namespace Text

def IsPrintable (text : Text) : Prop :=
  ∀ c ∈ text, c.isPrintable = true

instance : DecidablePred IsPrintable :=
  fun text => inferInstanceAs (Decidable (∀ c ∈ text, c.isPrintable = true))

theorem isPrintable_append_iff {text other : Text} :
    (text ++ other).IsPrintable ↔ text.IsPrintable ∧ other.IsPrintable :=
  List.forall_mem_append

end Text

namespace Numeral

def ofHex (digits : Text) : Nat :=
  digits.foldl (fun value c => 16 * value + (Text.ofString "0123456789abcdef").idxOf c) 0

private theorem length_hex (width n : Nat) : (hex width n).length = width := by
  induction width generalizing n with
  | zero => rfl
  | succ width ih => rw [hex, List.length_append, ih, List.length_singleton]

private theorem ofHex_hex {width n : Nat} (hn : n < 16 ^ width) : ofHex (hex width n) = n := by
  have hdigit : ∀ d < 16, (Text.ofString "0123456789abcdef").idxOf
      (CodePoint.ofChar (Nat.digitChar d)) = d := by
    decide +kernel
  induction width generalizing n with
  | zero =>
    rw [Nat.pow_zero, Nat.lt_one_iff] at hn
    rw [hn]
    rfl
  | succ width ih =>
    have hhigh : n / 16 < 16 ^ width := by
      rw [Nat.pow_succ] at hn
      omega
    have hlow := hdigit (n % 16) (Nat.mod_lt n (by decide))
    have hread := ih hhigh
    unfold ofHex at hread ⊢
    rw [hex, List.foldl_append, hread, List.foldl_cons, List.foldl_nil, hlow]
    omega

private theorem isPrintable_hex (width n : Nat) : (hex width n).IsPrintable := by
  have hprint : ∀ d < 16, (CodePoint.ofChar (Nat.digitChar d)).isPrintable = true := by
    decide +kernel
  intro c hc
  obtain ⟨digit, hdigit, rfl⟩ := exists_digit_of_mem_hex hc
  exact hprint digit hdigit

theorem isPrintable_ofNat (n : Nat) : (ofNat n).IsPrintable := by
  intro c hc
  have hdigit := CodePoint.isAsciiDigit_iff.mp (isAsciiDigit_of_mem_ofNat hc)
  rw [CodePoint.isPrintable, if_pos (by omega), Bool.and_eq_true, decide_eq_true_eq,
    decide_eq_true_eq]
  omega

end Numeral

namespace Quoted

def digitCount (letter : CodePoint) : Nat :=
  if letter = 'x' then 2 else if letter = 'u' then 4 else if letter = 'U' then 8 else 0

def named (letter : CodePoint) : CodePoint :=
  if letter = 'n' then '\n' else if letter = 'r' then '\r' else if letter = 't' then '\t'
  else letter

def escaped? : Text → Option (CodePoint × Text)
  | [] => none
  | letter :: rest =>
    let count := digitCount letter
    if count = 0 then some (named letter, rest)
    else (CodePoint.ofNat? (Numeral.ofHex (rest.take count))).map fun c => (c, rest.drop count)

def first? : Text → Option (CodePoint × Text)
  | [] => none
  | c :: rest => if c = '\\' then escaped? rest else some (c, rest)

section Escape

variable {quote c : CodePoint} (hquote : quote = '\'' ∨ quote = '"')

include hquote in
private theorem escape_cases :
    (∃ letter, letter.isPrintable = true ∧ digitCount letter = 0 ∧ named letter = c ∧
      escape quote c = [CodePoint.ofChar '\\', letter]) ∨
    (c.isPrintable = true ∧ c ≠ CodePoint.ofChar '\\' ∧ escape quote c = [c]) ∨
    ∃ letter, letter.isPrintable = true ∧ digitCount letter ≠ 0 ∧
      c.value < 16 ^ digitCount letter ∧ escape quote c =
        CodePoint.ofChar '\\' :: letter :: Numeral.hex (digitCount letter) c.value := by
  by_cases hself : c = quote ∨ c = CodePoint.ofChar '\\'
  · have hletter : c.isPrintable = true ∧ digitCount c = 0 ∧ named c = c := by
      rcases hself with rfl | rfl
      · rcases hquote with rfl | rfl
        · decide
        · decide
      · decide
    left
    exact ⟨c, hletter.1, hletter.2.1, hletter.2.2, if_pos (by simpa using hself)⟩
  rw [not_or] at hself
  have hescape : escape quote c =
      if c = CodePoint.ofChar '\n' then Text.ofString "\\n"
      else if c = CodePoint.ofChar '\r' then Text.ofString "\\r"
      else if c = CodePoint.ofChar '\t' then Text.ofString "\\t"
      else if c.isPrintable then [c] else numericEscape c.value :=
    if_neg (by simpa using hself)
  rw [hescape]
  by_cases hfeed : c = CodePoint.ofChar '\n'
  · rw [hfeed]
    exact Or.inl ⟨CodePoint.ofChar 'n', by decide⟩
  by_cases hreturn : c = CodePoint.ofChar '\r'
  · rw [hreturn]
    exact Or.inl ⟨CodePoint.ofChar 'r', by decide⟩
  by_cases htab : c = CodePoint.ofChar '\t'
  · rw [htab]
    exact Or.inl ⟨CodePoint.ofChar 't', by decide⟩
  rw [if_neg hfeed, if_neg hreturn, if_neg htab]
  right
  by_cases hprint : c.isPrintable = true
  · exact Or.inl ⟨hprint, hself.2, if_pos hprint⟩
  right
  rw [if_neg hprint, numericEscape]
  have hrange := c.inRange
  by_cases hbyte : c.value < 0x100
  · exact ⟨CodePoint.ofChar 'x', by decide, by decide, hbyte, if_pos hbyte⟩
  rw [if_neg hbyte]
  by_cases hplane : c.value < 0x10000
  · exact ⟨CodePoint.ofChar 'u', by decide, by decide, hplane, if_pos hplane⟩
  · have hwide : c.value < 16 ^ digitCount (CodePoint.ofChar 'U') :=
      Nat.lt_trans hrange (by decide)
    exact ⟨CodePoint.ofChar 'U', by decide, by decide, hwide, if_neg hplane⟩

include hquote in
private theorem isPrintable_escape : (escape quote c).IsPrintable := by
  have hslash : (CodePoint.ofChar '\\').isPrintable = true := by decide
  rcases escape_cases (c := c) hquote with ⟨letter, hletter, -, -, hescape⟩ | ⟨hc, -, hescape⟩ |
    ⟨letter, hletter, -, -, hescape⟩
  · rw [hescape, Text.IsPrintable, List.forall_mem_cons, List.forall_mem_singleton]
    exact ⟨hslash, hletter⟩
  · rw [hescape, Text.IsPrintable, List.forall_mem_singleton]
    exact hc
  · rw [hescape, Text.IsPrintable, List.forall_mem_cons, List.forall_mem_cons]
    exact ⟨hslash, hletter, Numeral.isPrintable_hex _ _⟩

include hquote in
private theorem first?_escape_append (rest : Text) :
    first? (escape quote c ++ rest) = some (c, rest) := by
  rcases escape_cases (c := c) hquote with ⟨letter, -, hcount, hnamed, hescape⟩ |
    ⟨-, hslash, hescape⟩ | ⟨letter, -, hcount, hvalue, hescape⟩
  · rw [hescape, List.cons_append, List.singleton_append, first?, if_pos rfl]
    simp only [escaped?]
    rw [if_pos hcount, hnamed]
  · rw [hescape, List.singleton_append, first?, if_neg hslash]
  · have hlength := Numeral.length_hex (digitCount letter) c.value
    have htake : (Numeral.hex (digitCount letter) c.value ++ rest).take (digitCount letter) =
        Numeral.hex (digitCount letter) c.value := List.take_left' hlength
    have hdrop : (Numeral.hex (digitCount letter) c.value ++ rest).drop (digitCount letter) =
        rest := List.drop_left' hlength
    rw [hescape, List.cons_append, List.cons_append, first?, if_pos rfl]
    simp only [escaped?]
    rw [if_neg hcount, htake, hdrop, Numeral.ofHex_hex hvalue, c.ofNat?_value, Option.map_some]

include hquote in
private theorem flatMap_escape_injective : Function.Injective (List.flatMap (escape quote)) := by
  have hnil : first? [] = none := rfl
  intro text other h
  -- Reading either side gives the first code point of both texts, and leaves the rest of both.
  induction text generalizing other with
  | nil =>
    cases other with
    | nil => rfl
    | cons d other =>
      have hread := first?_escape_append (c := d) hquote (other.flatMap (escape quote))
      rw [← List.flatMap_cons, ← h, List.flatMap_nil, hnil] at hread
      cases hread
  | cons c text ih =>
    have hread := first?_escape_append (c := c) hquote (text.flatMap (escape quote))
    rw [← List.flatMap_cons, h] at hread
    cases other with
    | nil =>
      rw [List.flatMap_nil, hnil] at hread
      cases hread
    | cons d other =>
      rw [List.flatMap_cons, first?_escape_append hquote, Option.some.injEq,
        Prod.mk.injEq] at hread
      obtain ⟨rfl, hrest⟩ := hread
      rw [ih hrest.symm]

end Escape

private theorem quoteFor_eq (text : Text) : quoteFor text = '\'' ∨ quoteFor text = '"' := by
  unfold quoteFor
  split
  · exact Or.inr rfl
  · exact Or.inl rfl

theorem isPrintable_encode (text : Text) : (encode text).IsPrintable := by
  have hquote := quoteFor_eq text
  have hprint : (quoteFor text).isPrintable = true := by
    rcases hquote with h | h
    · rw [h]
      decide
    · rw [h]
      decide
  intro c hc
  simp only [encode, List.cons_append, List.mem_cons, List.mem_append, List.mem_flatMap,
    List.not_mem_nil, or_false] at hc
  rcases hc with rfl | ⟨d, -, hc⟩ | rfl
  · exact hprint
  · exact isPrintable_escape hquote c hc
  · exact hprint

/-- The first quote tells which quotes were chosen, and between them every code point is read back
from its escape. -/
theorem encode_injective : Function.Injective encode := by
  intro text other h
  simp only [encode, List.cons_append, List.cons.injEq] at h
  obtain ⟨hquote, hbody⟩ := h
  rw [← hquote] at hbody
  exact flatMap_escape_injective (quoteFor_eq text) (List.append_cancel_right hbody)

end Quoted

end SnippetReview
