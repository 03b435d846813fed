import Mathlib.Algebra.Group.Nat.Defs
import Mathlib.Data.List.GetD
import Mathlib.Data.Set.Function
import SnippetReview.Proofs.Token.Base64Url
import SnippetReview.Text.Word

/-!
Canonical base64url, against a decoder of padded texts that takes a group of four characters for one
number. Main statement: what is encoded is decoded again once its padding is restored, and the texts
that arise are all those that leave no bit set beyond their last byte.
-/

set_option autoImplicit false

namespace SnippetReview.Base64Url

def IsUrlSafe (c : CodePoint) : Prop :=
  c.isAsciiAlphanumeric = true ∨ c = CodePoint.ofChar '-' ∨ c = CodePoint.ofChar '_'

instance : DecidablePred IsUrlSafe :=
  fun _ => inferInstanceAs (Decidable (_ ∨ _ ∨ _))

/-- The number below 64 that a character stands for: capitals, small letters, digits and the two
signs, in this order. -/
def sextet? (c : CodePoint) : Option Nat :=
  if 0x41 ≤ c.value ∧ c.value ≤ 0x5A then some (c.value - 0x41)
  else if 0x61 ≤ c.value ∧ c.value ≤ 0x7A then some (c.value - 0x61 + 26)
  else if 0x30 ≤ c.value ∧ c.value ≤ 0x39 then some (c.value - 0x30 + 52)
  else if c = CodePoint.ofChar '-' then some 62
  else if c = CodePoint.ofChar '_' then some 63
  else none

def padding : CodePoint := '='

def pad (text : Text) : Text :=
  text ++ List.replicate ((4 - text.length % 4) % 4) padding

/-- The bytes of a text in whole groups of four characters. A group is a number of 24 bits; the last
one can end in one or two padding signs, and has a byte less for each. -/
def decodePadded? : Text → Option Bytes
  | [] => some []
  | p :: q :: r :: s :: rest => do
    let a ← sextet? p
    let b ← sextet? q
    if rest = [] ∧ s = padding then
      if r = padding then return [((a * 64 + b) / 16).toUInt8]
      let c ← sextet? r
      let group := (a * 64 + b) * 64 + c
      return [(group / 1024).toUInt8, (group / 4).toUInt8]
    let c ← sextet? r
    let d ← sextet? s
    let group := ((a * 64 + b) * 64 + c) * 64 + d
    let more ← decodePadded? rest
    return (group / 65536).toUInt8 :: (group / 256).toUInt8 :: group.toUInt8 :: more
  | _ => none

/-- The bits of the last character that belong to no byte. -/
def unusedBits (text : Text) : Nat :=
  6 * text.length % 8

/-- A text that some bytes can have: not one character beyond whole groups, and no unused bit set. -/
structure IsCanonical (text : Text) : Prop where
  urlSafe : ∀ c ∈ text, IsUrlSafe c
  length : text.length % 4 ≠ 1
  unused : ∀ bits ∈ text.getLast?.bind sextet?, 2 ^ unusedBits text ∣ bits

section Characters

variable {c : CodePoint} {index : Nat}

private theorem bits?_eq_sextet? (c : CodePoint) : bits? c = sextet? c := by
  obtain ⟨n, hn⟩ := c
  by_cases hascii : n < 0x80
  · have hall : ∀ n : Fin 0x80, ∀ h : n.val < 0x110000, bits? ⟨n, h⟩ = sextet? ⟨n, h⟩ := by
      decide +kernel
    exact hall ⟨n, hascii⟩ hn
  · have hvalues : ∀ c ∈ alphabet, c.value < 0x80 := by decide +kernel
    have hnot : CodePoint.mk n hn ∉ alphabet := fun hmem => hascii (hvalues _ hmem)
    have hplace : bits? (CodePoint.mk n hn) = none := by
      refine if_neg ?_
      rw [List.idxOf_eq_length hnot]
      decide
    have hhyphen : CodePoint.mk n hn ≠ CodePoint.ofChar '-' := by
      intro h
      exact hnot (h ▸ by decide +kernel)
    have hunderscore : CodePoint.mk n hn ≠ CodePoint.ofChar '_' := by
      intro h
      exact hnot (h ▸ by decide +kernel)
    have hcapital : ¬ (0x41 ≤ n ∧ n ≤ 0x5A) := by omega
    have hsmall : ¬ (0x61 ≤ n ∧ n ≤ 0x7A) := by omega
    have hdigit : ¬ (0x30 ≤ n ∧ n ≤ 0x39) := by omega
    rw [hplace, sextet?, if_neg hcapital, if_neg hsmall, if_neg hdigit, if_neg hhyphen,
      if_neg hunderscore]

private theorem isUrlSafe_iff : IsUrlSafe c ↔ ∃ index, sextet? c = some index := by
  rw [IsUrlSafe, CodePoint.isAsciiAlphanumeric, CodePoint.isAsciiLetter]
  simp only [Bool.or_eq_true, Bool.and_eq_true, decide_eq_true_eq]
  constructor
  · rintro (((hcapital | hsmall) | hdigit) | rfl | rfl)
    · exact ⟨_, if_pos hcapital⟩
    · exact ⟨_, by rw [sextet?, if_neg (by omega), if_pos hsmall]⟩
    · exact ⟨_, by rw [sextet?, if_neg (by omega), if_neg (by omega), if_pos hdigit]⟩
    · exact ⟨62, by decide⟩
    · exact ⟨63, by decide⟩
  · rintro ⟨index, h⟩
    rw [sextet?] at h
    split at h
    · next hcapital => exact Or.inl (Or.inl (Or.inl hcapital))
    split at h
    · next hsmall => exact Or.inl (Or.inl (Or.inr hsmall))
    split at h
    · next hdigit => exact Or.inl (Or.inr hdigit)
    split at h
    · next hhyphen => exact Or.inr (Or.inl hhyphen)
    split at h
    · next hunderscore => exact Or.inr (Or.inr hunderscore)
    · cases h

private theorem eq_character_of_sextet? (h : sextet? c = some index) :
    index < 64 ∧ character index = c := by
  rw [← bits?_eq_sextet?, bits?] at h
  split at h
  · next hlt =>
    cases h
    refine ⟨hlt, ?_⟩
    have hlength : alphabet.idxOf c < alphabet.length := hlt
    rw [character, Nat.mod_eq_of_lt hlt, List.getD_eq_getElem _ _ hlength, List.getElem_idxOf]
  · cases h

private theorem character_eq_of_sextet? {bits : Nat} (h : sextet? c = some index)
    (hbits : bits % 64 = index) :
    character bits = c := by
  obtain ⟨hlt, hcharacter⟩ := eq_character_of_sextet? h
  rw [character_eq_mod, hbits, hcharacter]

private theorem sextet?_character (bits : Nat) : sextet? (character bits) = some (bits % 64) := by
  rw [← bits?_eq_sextet?, bits?_character]

private theorem isUrlSafe_character (bits : Nat) : IsUrlSafe (character bits) :=
  isUrlSafe_iff.mpr ⟨_, sextet?_character bits⟩

private theorem sextet?_padding : sextet? padding = none := by
  decide

private theorem ne_padding_of_sextet? (h : sextet? c = some index) : c ≠ padding := by
  rintro rfl
  rw [sextet?_padding] at h
  cases h

end Characters

private theorem pad_cons (p q r s : CodePoint) (rest : Text) :
    pad (p :: q :: r :: s :: rest) = p :: q :: r :: s :: pad rest := by
  have hlength : (p :: q :: r :: s :: rest).length % 4 = rest.length % 4 := by
    simp only [List.length_cons]
    omega
  rw [pad, hlength]
  rfl

private theorem toUInt8_eq_joinBits {group high low : Nat} (h : group % 256 = (high + low) % 256) :
    group.toUInt8 = joinBits high low := by
  symm
  apply joinBits_eq
  rw [← h]
  exact (UInt8.toNat_ofNat' ..).symm

private theorem decodePadded?_pad {text : Text} (htext : ∀ c ∈ text, IsUrlSafe c) :
    decodePadded? (pad text) = decode? text := by
  induction text using decode?.induct with
  | case1 => rfl
  | case2 p =>
    have hpad : pad [p] = [p, padding, padding, padding] := rfl
    rw [hpad, decodePadded?]
    cases hp : sextet? p <;> simp [sextet?_padding, decode?]
  | case3 p q =>
    simp only [List.forall_mem_cons, isUrlSafe_iff] at htext
    obtain ⟨⟨a, ha⟩, ⟨b, hb⟩, -⟩ := htext
    have hpad : pad [p, q] = [p, q, padding, padding] := rfl
    have h1 : ((a * 64 + b) / 16).toUInt8 = joinBits (a * 4) (b / 16) :=
      toUInt8_eq_joinBits (by omega)
    simp [hpad, decodePadded?, decode?, bits?_eq_sextet?, ha, hb, h1]
  | case4 p q r =>
    simp only [List.forall_mem_cons, isUrlSafe_iff] at htext
    obtain ⟨⟨a, ha⟩, ⟨b, hb⟩, ⟨c, hc⟩, -⟩ := htext
    have hpad : pad [p, q, r] = [p, q, r, padding] := rfl
    have hr := ne_padding_of_sextet? hc
    have hclt := (eq_character_of_sextet? hc).1
    have h1 : (((a * 64 + b) * 64 + c) / 1024).toUInt8 = joinBits (a * 4) (b / 16) :=
      toUInt8_eq_joinBits (by omega)
    have h2 : (((a * 64 + b) * 64 + c) / 4).toUInt8 = joinBits (b * 16) (c / 4) :=
      toUInt8_eq_joinBits (by omega)
    simp [hpad, decodePadded?, decode?, bits?_eq_sextet?, ha, hb, hc, hr, h1, h2]
  | case5 p q r s rest ih =>
    simp only [List.forall_mem_cons] at htext
    obtain ⟨hp, hq, hr, hs, hrest⟩ := htext
    obtain ⟨a, ha⟩ := isUrlSafe_iff.mp hp
    obtain ⟨b, hb⟩ := isUrlSafe_iff.mp hq
    obtain ⟨c, hc⟩ := isUrlSafe_iff.mp hr
    obtain ⟨d, hd⟩ := isUrlSafe_iff.mp hs
    have hend := ne_padding_of_sextet? hd
    have hclt := (eq_character_of_sextet? hc).1
    have hdlt := (eq_character_of_sextet? hd).1
    have h1 : ((((a * 64 + b) * 64 + c) * 64 + d) / 65536).toUInt8 = joinBits (a * 4) (b / 16) :=
      toUInt8_eq_joinBits (by omega)
    have h2 : ((((a * 64 + b) * 64 + c) * 64 + d) / 256).toUInt8 = joinBits (b * 16) (c / 4) :=
      toUInt8_eq_joinBits (by omega)
    have h3 : (((a * 64 + b) * 64 + c) * 64 + d).toUInt8 = joinBits (c * 64) d :=
      toUInt8_eq_joinBits (by omega)
    simp only [pad_cons, decodePadded?, decode?, bits?_eq_sextet?, ha, hb, hc, hd, hend, ih hrest,
      h1, h2, h3, and_false, if_false, Option.bind_eq_bind, Option.bind_some]

private theorem toNat_joinBits (high low : Nat) : (joinBits high low).toNat = (high + low) % 256 :=
  UInt8.toNat_ofNat' ..

private theorem unusedBits_pair (p q : CodePoint) : unusedBits [p, q] = 4 := by
  simp [unusedBits]

private theorem unusedBits_triple (p q r : CodePoint) : unusedBits [p, q, r] = 2 := by
  simp [unusedBits]

private theorem isCanonical_cons_iff {p q r s : CodePoint} {rest : Text} :
    IsCanonical (p :: q :: r :: s :: rest) ↔
      (IsUrlSafe p ∧ IsUrlSafe q ∧ IsUrlSafe r ∧ IsUrlSafe s) ∧ IsCanonical rest := by
  have hlength : (p :: q :: r :: s :: rest).length % 4 = rest.length % 4 := by
    simp only [List.length_cons]
    omega
  have hbits : unusedBits (p :: q :: r :: s :: rest) = unusedBits rest := by
    simp only [unusedBits, List.length_cons]
    omega
  have hlast : rest ≠ [] → (p :: q :: r :: s :: rest).getLast? = rest.getLast? := by
    intro hne
    obtain ⟨c, rest, rfl⟩ := List.exists_cons_of_ne_nil hne
    simp only [List.getLast?_cons_cons]
  constructor
  · rintro ⟨hsafe, hlen, hunused⟩
    simp only [List.forall_mem_cons] at hsafe
    obtain ⟨hp, hq, hr, hs, hrest⟩ := hsafe
    refine ⟨⟨hp, hq, hr, hs⟩, hrest, hlength ▸ hlen, ?_⟩
    intro bits hmem
    have hne : rest ≠ [] := by
      rintro rfl
      cases hmem
    rw [← hbits]
    exact hunused bits (by rwa [hlast hne])
  · rintro ⟨⟨hp, hq, hr, hs⟩, hsafe, hlen, hunused⟩
    refine ⟨List.forall_mem_cons.mpr ⟨hp, ?_⟩, hlength ▸ hlen, ?_⟩
    · simp only [List.forall_mem_cons]
      exact ⟨hq, hr, hs, hsafe⟩
    · intro bits hmem
      rw [hbits]
      by_cases hne : rest = []
      · rw [hne]
        exact Nat.one_dvd bits
      · exact hunused bits (by rwa [hlast hne] at hmem)

private theorem isCanonical_encode (bytes : Bytes) : IsCanonical (encode bytes) := by
  fun_induction encode bytes with
  | case1 => exact ⟨by simp, by decide, by simp⟩
  | case2 a =>
    refine ⟨by simp [isUrlSafe_character], by simp, ?_⟩
    intro bits hmem
    simp only [List.getLast?_cons_cons, List.getLast?_singleton, Option.bind_some,
      sextet?_character, Option.mem_def, Option.some.injEq] at hmem
    rw [unusedBits_pair]
    omega
  | case3 a b =>
    refine ⟨by simp [isUrlSafe_character], by simp, ?_⟩
    intro bits hmem
    simp only [List.getLast?_cons_cons, List.getLast?_singleton, Option.bind_some,
      sextet?_character, Option.mem_def, Option.some.injEq] at hmem
    rw [unusedBits_triple]
    omega
  | case4 a b c rest ih =>
    rw [isCanonical_cons_iff]
    simp only [isUrlSafe_character, true_and]
    exact ih

/-- A canonical text is the text of the bytes that it is read as. -/
private theorem exists_encode_eq {text : Text} (h : IsCanonical text) :
    ∃ bytes, decode? text = some bytes ∧ encode bytes = text := by
  induction text using decode?.induct with
  | case1 => exact ⟨[], rfl, rfl⟩
  | case2 p => exact absurd rfl h.length
  | case3 p q =>
    have hsafe := h.urlSafe
    simp only [List.forall_mem_cons, isUrlSafe_iff] at hsafe
    obtain ⟨⟨a, ha⟩, ⟨b, hb⟩, -⟩ := hsafe
    have hunused := h.unused b hb
    rw [unusedBits_pair] at hunused
    have halt := (eq_character_of_sextet? ha).1
    have hblt := (eq_character_of_sextet? hb).1
    refine ⟨[joinBits (a * 4) (b / 16)], by simp [decode?, bits?_eq_sextet?, ha, hb], ?_⟩
    rw [encode, toNat_joinBits, character_eq_of_sextet? ha (by omega),
      character_eq_of_sextet? hb (by omega)]
  | case4 p q r =>
    have hsafe := h.urlSafe
    simp only [List.forall_mem_cons, isUrlSafe_iff] at hsafe
    obtain ⟨⟨a, ha⟩, ⟨b, hb⟩, ⟨c, hc⟩, -⟩ := hsafe
    have hunused := h.unused c hc
    rw [unusedBits_triple] at hunused
    have halt := (eq_character_of_sextet? ha).1
    have hblt := (eq_character_of_sextet? hb).1
    have hclt := (eq_character_of_sextet? hc).1
    refine ⟨[joinBits (a * 4) (b / 16), joinBits (b * 16) (c / 4)],
      by simp [decode?, bits?_eq_sextet?, ha, hb, hc], ?_⟩
    rw [encode, toNat_joinBits, toNat_joinBits, character_eq_of_sextet? ha (by omega),
      character_eq_of_sextet? hb (by omega), character_eq_of_sextet? hc (by omega)]
  | case5 p q r s rest ih =>
    obtain ⟨⟨hp, hq, hr, hs⟩, hrest⟩ := isCanonical_cons_iff.mp h
    obtain ⟨more, hmore, hencode⟩ := ih hrest
    obtain ⟨a, ha⟩ := isUrlSafe_iff.mp hp
    obtain ⟨b, hb⟩ := isUrlSafe_iff.mp hq
    obtain ⟨c, hc⟩ := isUrlSafe_iff.mp hr
    obtain ⟨d, hd⟩ := isUrlSafe_iff.mp hs
    have halt := (eq_character_of_sextet? ha).1
    have hblt := (eq_character_of_sextet? hb).1
    have hclt := (eq_character_of_sextet? hc).1
    have hdlt := (eq_character_of_sextet? hd).1
    refine ⟨joinBits (a * 4) (b / 16) :: joinBits (b * 16) (c / 4) :: joinBits (c * 64) d :: more,
      by simp [decode?, bits?_eq_sextet?, ha, hb, hc, hd, hmore], ?_⟩
    rw [encode, toNat_joinBits, toNat_joinBits, toNat_joinBits, hencode,
      character_eq_of_sextet? ha (by omega), character_eq_of_sextet? hb (by omega),
      character_eq_of_sextet? hc (by omega), character_eq_of_sextet? hd (by omega)]

/-- Some bytes have one text: it is over the alphabet, has four characters for each three bytes,
rounded up, and no padding, and once it is padded it is read as the bytes. A canonical text is the text
of what it is read as. So canonical texts and bytes pair off. -/
theorem encode_bijOn_isCanonical :
    (∀ bytes, (∀ c ∈ encode bytes, IsUrlSafe c) ∧
      (encode bytes).length = (4 * bytes.length + 2) / 3 ∧ padding ∉ encode bytes ∧
      decodePadded? (pad (encode bytes)) = some bytes) ∧
    (∀ text, IsCanonical text →
      ∃ bytes, decodePadded? (pad text) = some bytes ∧ encode bytes = text) ∧
    Set.BijOn encode Set.univ {text | IsCanonical text} := by
  have hread : ∀ bytes, decodePadded? (pad (encode bytes)) = some bytes := by
    intro bytes
    rw [decodePadded?_pad (isCanonical_encode bytes).urlSafe, decode?_encode]
  have hwrite : ∀ text, IsCanonical text →
      ∃ bytes, decodePadded? (pad text) = some bytes ∧ encode bytes = text := by
    intro text htext
    rw [decodePadded?_pad htext.urlSafe]
    exact exists_encode_eq htext
  refine ⟨fun bytes => ⟨(isCanonical_encode bytes).urlSafe, length_encode bytes, ?_, hread bytes⟩,
    hwrite, ?_⟩
  · intro hmem
    obtain ⟨index, hindex⟩ := isUrlSafe_iff.mp ((isCanonical_encode bytes).urlSafe _ hmem)
    exact ne_padding_of_sextet? hindex rfl
  · refine ⟨fun bytes _ => isCanonical_encode bytes, ?_, ?_⟩
    · intro bytes _ other _ h
      have hsame := hread bytes
      rw [h, hread other] at hsame
      exact (Option.some.inj hsame).symm
    · intro text htext
      obtain ⟨bytes, -, hencode⟩ := hwrite text htext
      exact ⟨bytes, Set.mem_univ bytes, hencode⟩

/-- Two bytes leave two bits over. A text that sets one of them is read as the same bytes, and is not
theirs. -/
theorem encode_bijOn_isCanonical_of_two_bytes :
    IsCanonical "-_8" ∧ decodePadded? "-_8=" = some [0xFB, 0xFF] ∧ encode [0xFB, 0xFF] = "-_8" ∧
      decodePadded? "-_9=" = some [0xFB, 0xFF] ∧ ¬ IsCanonical "-_9" := by
  have hcanonical : IsCanonical "-_8" :=
    ⟨by decide +kernel, by decide, by decide +kernel⟩
  obtain ⟨-, hwrite, -⟩ := encode_bijOn_isCanonical
  obtain ⟨bytes, hread, htext⟩ := hwrite "-_8" hcanonical
  have hpad : pad "-_8" = Text.ofString "-_8=" := by
    decide +kernel
  rw [hpad] at hread
  have hbytes : bytes = [0xFB, 0xFF] := by
    have hsame : decodePadded? "-_8=" = some [0xFB, 0xFF] := by
      decide +kernel
    rw [hsame] at hread
    exact (Option.some.inj hread).symm
  subst hbytes
  refine ⟨hcanonical, hread, htext, by decide +kernel, ?_⟩
  intro h
  have hunused := h.unused 61 (by decide +kernel)
  revert hunused
  decide +kernel

end SnippetReview.Base64Url
