import SnippetReview.Token.Base64Url

/-!
Unpadded base64url: the text of some bytes is over the alphabet, has four characters for each three
bytes, and is read back as the bytes.
-/

set_option autoImplicit false

namespace SnippetReview.Base64Url

theorem character_eq_mod (bits : Nat) : character bits = character (bits % 64) := by
  simp [character]

theorem bits?_character (bits : Nat) : bits? (character bits) = some (bits % 64) := by
  have hsmall : ∀ place < 64, bits? (character place) = some place := by decide +kernel
  rw [character_eq_mod]
  exact hsmall _ (Nat.mod_lt _ (by decide))

private theorem character_mem_alphabet (bits : Nat) : character bits ∈ alphabet := by
  have hsmall : ∀ place < 64, character place ∈ alphabet := by decide +kernel
  rw [character_eq_mod]
  exact hsmall _ (Nat.mod_lt _ (by decide))

theorem mem_alphabet_of_mem_encode {bytes : Bytes} {c : CodePoint} (hc : c ∈ encode bytes) :
    c ∈ alphabet := by
  fun_induction encode bytes with
  | case1 => simp at hc
  | case2 a =>
    simp only [List.mem_cons, List.not_mem_nil, or_false] at hc
    rcases hc with rfl | rfl <;> exact character_mem_alphabet _
  | case3 a b =>
    simp only [List.mem_cons, List.not_mem_nil, or_false] at hc
    rcases hc with rfl | rfl | rfl <;> exact character_mem_alphabet _
  | case4 a b c rest ih =>
    simp only [List.mem_cons] at hc
    rcases hc with rfl | rfl | rfl | rfl | hrest
    · exact character_mem_alphabet _
    · exact character_mem_alphabet _
    · exact character_mem_alphabet _
    · exact character_mem_alphabet _
    · exact ih hrest

theorem length_encode (bytes : Bytes) : (encode bytes).length = (4 * bytes.length + 2) / 3 := by
  fun_induction encode bytes with
  | case1 => rfl
  | case2 => simp
  | case3 => simp
  | case4 a b c rest ih =>
    simp only [List.length_cons, ih]
    omega

theorem joinBits_eq {high low : Nat} {byte : UInt8} (h : (high + low) % 256 = byte.toNat) :
    joinBits high low = byte := by
  apply UInt8.toNat_inj.mp
  simpa [joinBits] using h

theorem decode?_encode (bytes : Bytes) : decode? (encode bytes) = some bytes := by
  fun_induction encode bytes with
  | case1 => rfl
  | case2 a =>
    have ha := a.toNat_lt
    have h1 : joinBits (a.toNat / 4 % 64 * 4) (a.toNat * 16 % 64 / 16) = a :=
      joinBits_eq (by omega)
    simp [decode?, bits?_character, h1]
  | case3 a b =>
    have ha := a.toNat_lt
    have hb := b.toNat_lt
    have h1 : joinBits (a.toNat / 4 % 64 * 4) ((a.toNat * 16 + b.toNat / 16) % 64 / 16) = a :=
      joinBits_eq (by omega)
    have h2 : joinBits ((a.toNat * 16 + b.toNat / 16) % 64 * 16) (b.toNat * 4 % 64 / 4) = b :=
      joinBits_eq (by omega)
    simp [decode?, bits?_character, h1, h2]
  | case4 a b c rest ih =>
    have ha := a.toNat_lt
    have hb := b.toNat_lt
    have hc := c.toNat_lt
    have h1 : joinBits (a.toNat / 4 % 64 * 4) ((a.toNat * 16 + b.toNat / 16) % 64 / 16) = a :=
      joinBits_eq (by omega)
    have h2 : joinBits ((a.toNat * 16 + b.toNat / 16) % 64 * 16)
        ((b.toNat * 4 + c.toNat / 64) % 64 / 4) = b := joinBits_eq (by omega)
    have h3 : joinBits ((b.toNat * 4 + c.toNat / 64) % 64 * 64) (c.toNat % 64) = c :=
      joinBits_eq (by omega)
    simp [decode?, bits?_character, h1, h2, h3, ih]

end SnippetReview.Base64Url
