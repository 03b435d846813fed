import Mathlib.Data.List.Basic
import Mathlib.Tactic.SplitIfs
import SnippetReview.Proofs.Text.Utf8

/-!
UTF-8 that is not valid. What a maximal invalid part is, is said by the bytes of characters alone. Main
statement: the reader that replaces takes any bytes apart into the bytes of characters and maximal
invalid parts, and gives one code point for each.
-/

set_option autoImplicit false

namespace SnippetReview.Utf8

def BeginsCharacter (part : Bytes) : Prop :=
  ∃ c : CodePoint, c.isSurrogate = false ∧ part <+: c.utf8

/-- A maximal invalid part at the front of some bytes: no character stands there, and the part is the
longest front that begins one, or a single byte where none does. -/
structure IsInvalidPart (part bytes : Bytes) : Prop where
  front : part <+: bytes
  ne_nil : part ≠ []
  noCharacter : ∀ c : CodePoint, c.isSurrogate = false → ¬ c.utf8 <+: bytes
  begins : BeginsCharacter part ∨ part.length = 1
  maximal : ∀ longer, longer <+: bytes → BeginsCharacter longer → longer.length ≤ part.length

/-- The text reads the bytes from front to back: a character for its bytes, and U+FFFD for a maximal
invalid part. -/
inductive Reads : Bytes → Text → Prop where
  | nil : Reads [] []
  | character {c : CodePoint} {more : Bytes} {text : Text} (hc : c.isSurrogate = false)
      (h : Reads more text) : Reads (c.utf8 ++ more) (c :: text)
  | invalid {part more : Bytes} {text : Text} (hpart : IsInvalidPart part (part ++ more))
      (h : Reads more text) : Reads (part ++ more) (CodePoint.replacement :: text)

def Follows : Nat → Nat → Bytes → Prop
  | _, _, [] => True
  | low, high, byte :: rest => (low ≤ byte.toNat ∧ byte.toNat ≤ high) ∧ Follows 0x80 0xBF rest

private theorem toUInt8_eq {byte : UInt8} {n : Nat} (h : n % 0x100 = byte.toNat) :
    n.toUInt8 = byte := by
  apply UInt8.toNat_inj.mp
  rw [← h]
  exact UInt8.toNat_ofNat' ..

private theorem toNat_toUInt8 {n : Nat} (h : n < 0x100) : n.toUInt8.toNat = n :=
  (UInt8.toNat_ofNat' ..).trans (Nat.mod_eq_of_lt h)

section Follows

variable {low high : Nat} {tail whole : Bytes}

private theorem Follows.of_prefix (h : Follows low high whole) (htail : tail <+: whole) :
    Follows low high tail := by
  induction tail generalizing low high whole with
  | nil => trivial
  | cons byte tail ih =>
    cases whole with
    | nil => exact absurd htail (by simp)
    | cons other whole =>
      rw [List.cons_prefix_cons] at htail
      obtain ⟨rfl, htail⟩ := htail
      exact ⟨h.1, ih h.2 htail⟩

private theorem Follows.exists_extension (hrange : low ≤ high) (hhigh : high < 0x100)
    (h : Follows low high tail) {n : Nat} (hn : tail.length ≤ n) :
    ∃ whole, tail <+: whole ∧ whole.length = n ∧ Follows low high whole := by
  induction n generalizing low high tail with
  | zero => exact ⟨tail, List.prefix_refl tail, Nat.le_zero.mp hn, h⟩
  | succ n ih =>
    cases tail with
    | nil =>
      obtain ⟨whole, -, hlength, hwhole⟩ := @ih 0x80 0xBF [] (by decide) (by decide) trivial (by simp)
      refine ⟨low.toUInt8 :: whole, List.nil_prefix, by rw [List.length_cons, hlength], ?_, hwhole⟩
      rw [toNat_toUInt8 (Nat.lt_of_le_of_lt hrange hhigh)]
      exact ⟨Nat.le_refl low, hrange⟩
    | cons byte tail =>
      obtain ⟨whole, hextends, hlength, hwhole⟩ :=
        ih (by decide) (by decide) h.2 (Nat.le_of_succ_le_succ hn)
      exact ⟨byte :: whole, List.cons_prefix_cons.mpr ⟨rfl, hextends⟩,
        by rw [List.length_cons, hlength], h.1, hwhole⟩

private theorem continuation_cases (bits low high more : Nat) (bytes : Bytes) :
    ∃ tail rest, bytes = tail ++ rest ∧ Follows low high tail ∧
      (tail.length = more + 1 ∨
        (tail.length ≤ more ∧ continuation bits low high more bytes = (none, rest) ∧
          ∀ longer, longer <+: bytes → Follows low high longer → longer.length ≤ tail.length)) := by
  fun_induction continuation bits low high more bytes with
  | case1 =>
    refine ⟨[], [], rfl, trivial, Or.inr ⟨Nat.zero_le _, rfl, ?_⟩⟩
    rintro longer hlonger -
    exact hlonger.length_le
  | case2 bits low high byte rest hbyte =>
    exact ⟨[byte], rest, rfl, ⟨hbyte, trivial⟩, Or.inl rfl⟩
  | case3 bits low high byte rest hbyte _ more ih =>
    obtain ⟨tail, after, hsplit, htail, hcase⟩ := ih
    refine ⟨byte :: tail, after, by rw [hsplit, List.cons_append], ⟨hbyte, htail⟩, ?_⟩
    obtain hlength | ⟨hlength, hstop, hmaximal⟩ := hcase
    · exact Or.inl (congrArg Nat.succ hlength)
    · refine Or.inr ⟨Nat.succ_le_succ hlength, hstop, ?_⟩
      intro longer hlonger hfollows
      cases longer with
      | nil => exact Nat.zero_le _
      | cons other longer =>
        rw [List.cons_prefix_cons] at hlonger
        exact Nat.succ_le_succ (hmaximal longer hlonger.2 hfollows.2)
  | case4 bits low high more byte rest hbyte =>
    refine ⟨[], byte :: rest, rfl, trivial, Or.inr ⟨Nat.zero_le _, rfl, ?_⟩⟩
    intro longer hlonger hfollows
    cases longer with
    | nil => exact Nat.le_refl _
    | cons other longer =>
      rw [List.cons_prefix_cons] at hlonger
      exact absurd (hlonger.1 ▸ hfollows.1) hbyte

end Follows

section Lead

variable {byte : Nat} {lead : Lead}

/-- What the leads fix: two bytes and no overlong form, three bytes and neither an overlong form nor a
surrogate, or four bytes and neither an overlong form nor anything above the last code point. -/
private theorem lead?_cases (h : lead? false byte = some lead) :
    lead.low ≤ lead.high ∧ 0x80 ≤ lead.low ∧ lead.high ≤ 0xBF ∧
      ((lead.more = 0 ∧ byte = 0xC0 + lead.bits ∧ 2 ≤ lead.bits ∧ lead.bits < 0x20) ∨
        (lead.more = 1 ∧ byte = 0xE0 + lead.bits ∧ lead.bits < 0x10 ∧
          (lead.bits = 0 → 0xA0 ≤ lead.low) ∧ (lead.bits = 0xD → lead.high ≤ 0x9F)) ∨
        (lead.more = 2 ∧ byte = 0xF0 + lead.bits ∧ lead.bits < 5 ∧
          (lead.bits = 0 → 0x90 ≤ lead.low) ∧ (lead.bits = 4 → lead.high ≤ 0x8F))) := by
  rw [lead?, if_neg Bool.false_ne_true] at h
  split_ifs at h
  all_goals
    rw [Option.some.injEq] at h
    subst h
    dsimp only
    omega

private theorem exists_utf8_eq {first : UInt8} {tail : Bytes}
    (hlead : lead? false first.toNat = some lead)
    (hlength : tail.length = lead.more + 1) (htail : Follows lead.low lead.high tail) :
    ∃ c : CodePoint, c.isSurrogate = false ∧ c.utf8 = first :: tail := by
  have hfirst := first.toNat_lt
  obtain ⟨-, hlow, hhigh, hforms⟩ := lead?_cases hlead
  obtain ⟨hmore, hbyte, hmin, hmax⟩ | ⟨hmore, hbyte, hmax, hoverlong, hsurrogate⟩ |
    ⟨hmore, hbyte, hmax, hoverlong, hlast⟩ := hforms
  · rw [hmore, List.length_eq_one_iff] at hlength
    obtain ⟨x, rfl⟩ := hlength
    obtain ⟨⟨hx, hx'⟩, -⟩ := htail
    refine ⟨⟨lead.bits * 0x40 + (x.toNat - 0x80), by omega⟩, ?_, ?_⟩
    · rw [CodePoint.isSurrogate_eq_false_iff]
      dsimp only
      omega
    · simp only [CodePoint.utf8]
      rw [if_neg (by omega), if_pos (by omega), @toUInt8_eq first _ (by omega),
        @toUInt8_eq x _ (by omega)]
  · rw [hmore, List.length_eq_two] at hlength
    obtain ⟨x, y, rfl⟩ := hlength
    obtain ⟨⟨hx, hx'⟩, ⟨hy, hy'⟩, -⟩ := htail
    refine ⟨⟨(lead.bits * 0x40 + (x.toNat - 0x80)) * 0x40 + (y.toNat - 0x80), by omega⟩, ?_, ?_⟩
    · rw [CodePoint.isSurrogate_eq_false_iff]
      dsimp only
      omega
    · simp only [CodePoint.utf8]
      rw [if_neg (by omega), if_neg (by omega), if_pos (by omega), @toUInt8_eq first _ (by omega),
        @toUInt8_eq x _ (by omega), @toUInt8_eq y _ (by omega)]
  · rw [hmore, List.length_eq_three] at hlength
    obtain ⟨x, y, z, rfl⟩ := hlength
    obtain ⟨⟨hx, hx'⟩, ⟨hy, hy'⟩, ⟨hz, hz'⟩, -⟩ := htail
    refine ⟨⟨((lead.bits * 0x40 + (x.toNat - 0x80)) * 0x40 + (y.toNat - 0x80)) * 0x40 +
      (z.toNat - 0x80), by omega⟩, ?_, ?_⟩
    · rw [CodePoint.isSurrogate_eq_false_iff]
      dsimp only
      omega
    · simp only [CodePoint.utf8]
      rw [if_neg (by omega), if_neg (by omega), if_neg (by omega), @toUInt8_eq first _ (by omega),
        @toUInt8_eq x _ (by omega), @toUInt8_eq y _ (by omega), @toUInt8_eq z _ (by omega)]

private theorem follows_of_utf8 {c : CodePoint} {first : UInt8} {tail : Bytes}
    (hc : c.isSurrogate = false)
    (hbytes : c.utf8 = first :: tail) (hfirst : 0x80 ≤ first.toNat) :
    ∃ lead, lead? false first.toNat = some lead ∧ tail.length = lead.more + 1 ∧
      Follows lead.low lead.high tail := by
  rw [CodePoint.isSurrogate_eq_false_iff] at hc
  have hrange := c.inRange
  simp only [CodePoint.utf8] at hbytes
  split_ifs at hbytes with h1 h2 h3
  all_goals
    rw [List.cons.injEq] at hbytes
    obtain ⟨rfl, rfl⟩ := hbytes
  · rw [toNat_toUInt8 (by omega)] at hfirst
    exact absurd h1 (Nat.not_lt.mpr hfirst)
  · rw [toNat_toUInt8 (by omega), lead?_two (Nat.not_lt.mp h1) h2]
    refine ⟨_, rfl, rfl, ?_, trivial⟩
    rw [toNat_toUInt8 (by omega)]
    dsimp only
    omega
  · obtain ⟨low, high, hlead, hlow, hhigh⟩ := lead?_three (Nat.not_lt.mp h2) h3 (Or.inr hc)
    rw [toNat_toUInt8 (by omega), hlead]
    refine ⟨_, rfl, rfl, ?_, ?_, trivial⟩
    · rw [toNat_toUInt8 (by omega)]
      exact ⟨hlow, hhigh⟩
    · rw [toNat_toUInt8 (by omega)]
      omega
  · obtain ⟨low, high, hlead, hlow, hhigh⟩ := @lead?_four false _ (Nat.not_lt.mp h3) hrange
    rw [toNat_toUInt8 (by omega), hlead]
    refine ⟨_, rfl, rfl, ?_, ?_, ?_, trivial⟩
    · rw [toNat_toUInt8 (by omega)]
      exact ⟨hlow, hhigh⟩
    · rw [toNat_toUInt8 (by omega)]
      omega
    · rw [toNat_toUInt8 (by omega)]
      omega

private theorem BeginsCharacter.follows {first : UInt8} {part : Bytes}
    (h : BeginsCharacter (first :: part))
    (hfirst : 0x80 ≤ first.toNat) :
    ∃ lead, lead? false first.toNat = some lead ∧ Follows lead.low lead.high part := by
  obtain ⟨c, hc, tail, hbytes⟩ := h
  rw [List.cons_append] at hbytes
  obtain ⟨lead, hlead, -, htail⟩ := follows_of_utf8 hc hbytes.symm hfirst
  exact ⟨lead, hlead, htail.of_prefix (List.prefix_append ..)⟩

end Lead

section Next

variable {first : UInt8} {rest more : Bytes} {c : CodePoint}

private theorem next_eq_of_character (hc : c.isSurrogate = false)
    (h : first :: rest = c.utf8 ++ more) :
    next false first rest = (some c, more) := by
  obtain ⟨byte, others, hbytes, hnext⟩ := next_utf8 false c more (Or.inr hc)
  rw [← h, List.cons.injEq] at hbytes
  obtain ⟨rfl, rfl⟩ := hbytes
  exact hnext

private theorem not_prefix_of_next (h : next false first rest = (none, more))
    (hc : c.isSurrogate = false) :
    ¬ c.utf8 <+: first :: rest := by
  rintro ⟨after, hafter⟩
  rw [next_eq_of_character hc hafter.symm] at h
  cases h

private theorem utf8_of_ascii (h : first < 0x80) :
    ∃ c : CodePoint, c.isSurrogate = false ∧ c.utf8 = [first] := by
  rw [UInt8.lt_iff_toNat_lt] at h
  change first.toNat < 0x80 at h
  refine ⟨⟨first.toNat, by omega⟩, ?_, ?_⟩
  · rw [CodePoint.isSurrogate_eq_false_iff]
    exact Or.inl (Nat.lt_trans h (by decide))
  · simp only [CodePoint.utf8, if_pos h]
    rw [@toUInt8_eq first _ (Nat.mod_eq_of_lt first.toNat_lt)]

private theorem isInvalidPart_of_lead?_eq_none (hfirst : 0x80 ≤ first.toNat)
    (hlead : lead? false first.toNat = none) (hnext : next false first rest = (none, more)) :
    IsInvalidPart [first] (first :: rest) where
  front := List.prefix_append [first] rest
  ne_nil := List.cons_ne_nil first []
  noCharacter := fun _ => not_prefix_of_next hnext
  begins := Or.inr rfl
  maximal := by
    intro longer hlonger hbegins
    cases longer with
    | nil => exact Nat.zero_le _
    | cons byte longer =>
      obtain ⟨rfl, -⟩ := List.cons_prefix_cons.mp hlonger
      obtain ⟨lead, hsome, -⟩ := hbegins.follows hfirst
      rw [hlead] at hsome
      cases hsome

/-- A lead is a maximal invalid part with the bytes that follow it, where these are too few. -/
private theorem isInvalidPart_of_lead? {lead : Lead} {tail : Bytes} (hfirst : 0x80 ≤ first.toNat)
    (hlead : lead? false first.toNat = some lead) (hnext : next false first rest = (none, more))
    (hsplit : rest = tail ++ more) (htail : Follows lead.low lead.high tail)
    (hlength : tail.length ≤ lead.more)
    (hmaximal : ∀ longer, longer <+: rest → Follows lead.low lead.high longer →
      longer.length ≤ tail.length) :
    IsInvalidPart (first :: tail) (first :: rest) where
  front := List.cons_prefix_cons.mpr ⟨rfl, more, hsplit.symm⟩
  ne_nil := List.cons_ne_nil first tail
  noCharacter := fun _ => not_prefix_of_next hnext
  begins := by
    obtain ⟨hrange, -, hhigh, -⟩ := lead?_cases hlead
    obtain ⟨whole, hextends, hwhole, hfollows⟩ :=
      htail.exists_extension hrange (by omega) (Nat.le_succ_of_le hlength)
    obtain ⟨c, hc, hbytes⟩ := exists_utf8_eq hlead hwhole hfollows
    exact Or.inl ⟨c, hc, hbytes ▸ List.cons_prefix_cons.mpr ⟨rfl, hextends⟩⟩
  maximal := by
    intro longer hlonger hbegins
    cases longer with
    | nil => exact Nat.zero_le _
    | cons byte longer =>
      rw [List.cons_prefix_cons] at hlonger
      obtain ⟨rfl, hlonger⟩ := hlonger
      obtain ⟨other, hother, hfollows⟩ := hbegins.follows hfirst
      rw [hlead, Option.some.injEq] at hother
      subst hother
      exact Nat.succ_le_succ (hmaximal longer hlonger hfollows)

private theorem next_cases (first : UInt8) (rest : Bytes) :
    (∃ c more, c.isSurrogate = false ∧ first :: rest = c.utf8 ++ more ∧
      next false first rest = (some c, more)) ∨
    ∃ part more, first :: rest = part ++ more ∧ IsInvalidPart part (first :: rest) ∧
      next false first rest = (none, more) := by
  by_cases hascii : first < 0x80
  · obtain ⟨c, hc, hbytes⟩ := utf8_of_ascii hascii
    have hsplit : first :: rest = c.utf8 ++ rest := by
      rw [hbytes, List.singleton_append]
    exact Or.inl ⟨c, rest, hc, hsplit, next_eq_of_character hc hsplit⟩
  have hfirst : 0x80 ≤ first.toNat := by
    rw [UInt8.lt_iff_toNat_lt] at hascii
    exact Nat.not_lt.mp hascii
  cases hlead : lead? false first.toNat with
  | none =>
    have hnext : next false first rest = (none, rest) := by
      simp only [next, if_neg hascii, hlead]
    exact Or.inr ⟨[first], rest, rfl, isInvalidPart_of_lead?_eq_none hfirst hlead hnext, hnext⟩
  | some lead =>
    obtain ⟨tail, more, hsplit, htail, hlength | ⟨hlength, hstop, hmaximal⟩⟩ :=
      continuation_cases lead.bits lead.low lead.high lead.more rest
    · obtain ⟨c, hc, hbytes⟩ := exists_utf8_eq hlead hlength htail
      have hwhole : first :: rest = c.utf8 ++ more := by
        rw [hbytes, hsplit, List.cons_append]
      exact Or.inl ⟨c, more, hc, hwhole, next_eq_of_character hc hwhole⟩
    · have hnext : next false first rest = (none, more) := by
        simp only [next, if_neg hascii, hlead, hstop, Option.bind_none]
      have hinvalid := isInvalidPart_of_lead? hfirst hlead hnext hsplit htail hlength hmaximal
      exact Or.inr ⟨first :: tail, more, by rw [hsplit, List.cons_append], hinvalid, hnext⟩

end Next

private theorem utf8_ne_nil (c : CodePoint) : c.utf8 ≠ [] := by
  simp only [CodePoint.utf8]
  split_ifs <;> exact List.cons_ne_nil _ _

section Reads

variable {part other bytes : Bytes} {text : Text}

private theorem IsInvalidPart.unique (h : IsInvalidPart part bytes)
    (hother : IsInvalidPart other bytes) :
    part = other := by
  have hle : ∀ {part other : Bytes}, IsInvalidPart part bytes → IsInvalidPart other bytes →
      part.length ≤ other.length := by
    intro part other h hother
    obtain hbegins | hone := h.begins
    · exact hother.maximal part h.front hbegins
    · rw [hone]
      exact List.length_pos_iff.mpr hother.ne_nil
  rw [List.prefix_iff_eq_take.mp h.front, List.prefix_iff_eq_take.mp hother.front,
    Nat.le_antisymm (hle h hother) (hle hother h)]

private theorem decodeReplacing_of_isInvalidPart {more : Bytes}
    (h : IsInvalidPart part (part ++ more)) :
    decodeReplacing (part ++ more) = CodePoint.replacement :: decodeReplacing more := by
  obtain ⟨first, tail, rfl⟩ := List.exists_cons_of_ne_nil h.ne_nil
  rw [List.cons_append] at h ⊢
  obtain ⟨c, after, hc, hsplit, -⟩ | ⟨part, after, hsplit, hpart, hnext⟩ :=
    next_cases first (tail ++ more)
  · exact absurd ⟨after, hsplit.symm⟩ (h.noCharacter c hc)
  · have hsame := hpart.unique h
    rw [hsame, List.cons_append, List.cons.injEq] at hsplit
    have hmore := List.append_cancel_left hsplit.2
    rw [decodeReplacing, hnext, hmore]
    rfl

/-- The reader that replaces reads any bytes, and no other text does. -/
theorem reads_iff : Reads bytes text ↔ decodeReplacing bytes = text := by
  constructor
  · intro h
    induction h with
    | nil => rw [decodeReplacing]
    | character hc _ ih => rw [decodeReplacing_utf8_append hc, ih]
    | invalid hpart _ ih => rw [decodeReplacing_of_isInvalidPart hpart, ih]
  · rintro rfl
    induction bytes using decodeReplacing.induct with
    | case1 =>
      rw [decodeReplacing]
      exact .nil
    | case2 first rest step ih =>
      rw [decodeReplacing]
      obtain ⟨c, more, hc, hsplit, hnext⟩ | ⟨part, more, hsplit, hpart, hnext⟩ :=
        next_cases first rest
      · have hmore : step.2 = more := congrArg Prod.snd hnext
        rw [hmore] at ih
        rw [hnext, hsplit]
        exact .character hc ih
      · have hmore : step.2 = more := congrArg Prod.snd hnext
        rw [hmore] at ih
        rw [hnext, hsplit]
        exact .invalid (hsplit ▸ hpart) ih

theorem Reads.length_le (h : Reads bytes text) : text.length ≤ bytes.length := by
  induction h with
  | nil => exact Nat.le_refl _
  | @character c more text _ _ ih =>
    have hpos := List.length_pos_iff.mpr (utf8_ne_nil c)
    rw [List.length_cons, List.length_append]
    omega
  | @invalid part more text hpart _ ih =>
    have hpos := List.length_pos_iff.mpr hpart.ne_nil
    rw [List.length_cons, List.length_append]
    omega

end Reads

end SnippetReview.Utf8
