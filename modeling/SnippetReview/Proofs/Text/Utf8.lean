import SnippetReview.Proofs.Text.Basic
import SnippetReview.Text.Utf8

/-!
UTF-8: reading inverts writing. A text of characters is read back from its bytes, by the reader that
replaces and by the reader that fails.
-/

set_option autoImplicit false

namespace SnippetReview

namespace CodePoint

theorem isSurrogate_eq_false_iff {c : CodePoint} :
    c.isSurrogate = false ↔ c.value < 0xD800 ∨ 0xDFFF < c.value := by
  simp only [isSurrogate, Bool.and_eq_false_iff, decide_eq_false_iff_not]
  omega

end CodePoint

def Text.IsEncodable (text : Text) : Prop :=
  ∀ c ∈ text, c.isSurrogate = false

instance : DecidablePred Text.IsEncodable :=
  fun text => inferInstanceAs (Decidable (∀ c ∈ text, c.isSurrogate = false))

theorem Text.not_isEncodable_iff {text : Text} :
    ¬ text.IsEncodable ↔ ∃ c ∈ text, c.isSurrogate = true := by
  simp [IsEncodable]

namespace Utf8

private theorem continuation_step (bits low high more payload : Nat) (rest : Bytes)
    (hlow : low ≤ 0x80 + payload) (hhigh : 0x80 + payload ≤ high) (hpayload : payload < 0x40) :
    continuation bits low high more ((0x80 + payload).toUInt8 :: rest) =
      match more with
      | 0 => (some (bits * 0x40 + payload), rest)
      | more + 1 => continuation (bits * 0x40 + payload) 0x80 0xBF more rest := by
  have hbyte : (0x80 + payload).toUInt8.toNat = 0x80 + payload := by
    simp
    omega
  rw [continuation.eq_def]
  simp only [hbyte]
  rw [if_pos ⟨hlow, hhigh⟩]
  cases more <;> simp

private theorem next_of_lead {surrogates : Bool} {byte : Nat} {lead : Lead} (rest : Bytes)
    (hlow : 0x80 ≤ byte) (hhigh : byte < 0x100) (hlead : lead? surrogates byte = some lead) :
    next surrogates byte.toUInt8 rest =
      ((continuation lead.bits lead.low lead.high lead.more rest).1.bind CodePoint.ofNat?,
        (continuation lead.bits lead.low lead.high lead.more rest).2) := by
  have hbyte : byte.toUInt8.toNat = byte := by
    simp
    omega
  have hlong : ¬ byte.toUInt8 < 0x80 := by
    rw [UInt8.lt_iff_toNat_lt, hbyte]
    exact Nat.not_lt.mpr hlow
  simp only [next, if_neg hlong, hbyte, hlead]

theorem lead?_two {surrogates : Bool} {n : Nat} (hlow : 0x80 ≤ n) (hhigh : n < 0x800) :
    lead? surrogates (0xC0 + n / 0x40) = some ⟨n / 0x40, 0x80, 0xBF, 0⟩ := by
  rw [lead?, if_pos (by omega), Nat.add_sub_cancel_left]

theorem lead?_three {surrogates : Bool} {n : Nat} (hlow : 0x800 ≤ n) (hhigh : n < 0x10000)
    (hsurrogate : surrogates = true ∨ n < 0xD800 ∨ 0xDFFF < n) :
    ∃ low high, lead? surrogates (0xE0 + n / 0x1000) = some ⟨n / 0x1000, low, high, 1⟩ ∧
      low ≤ 0x80 + n / 0x40 % 0x40 ∧ 0x80 + n / 0x40 % 0x40 ≤ high := by
  rw [lead?, if_neg (by omega)]
  by_cases hE0 : n / 0x1000 = 0
  · rw [if_pos (by omega)]
    exact ⟨0xA0, 0xBF, by simp [hE0], by omega, by omega⟩
  by_cases hED : n / 0x1000 = 0xD
  · rw [if_neg (by omega), if_pos (by omega)]
    refine ⟨0x80, _, by rw [hED], by omega, ?_⟩
    rcases hsurrogate with rfl | hplain
    · simp only [if_true]
      omega
    · split <;> omega
  · rw [if_neg (by omega), if_neg (by omega), if_pos (by omega), Nat.add_sub_cancel_left]
    exact ⟨0x80, 0xBF, rfl, by omega, by omega⟩

theorem lead?_four {surrogates : Bool} {n : Nat} (hlow : 0x10000 ≤ n) (hhigh : n < 0x110000) :
    ∃ low high, lead? surrogates (0xF0 + n / 0x40000) = some ⟨n / 0x40000, low, high, 2⟩ ∧
      low ≤ 0x80 + n / 0x1000 % 0x40 ∧ 0x80 + n / 0x1000 % 0x40 ≤ high := by
  rw [lead?, if_neg (by omega), if_neg (by omega), if_neg (by omega), if_neg (by omega)]
  by_cases hF0 : n / 0x40000 = 0
  · rw [if_pos (by omega)]
    exact ⟨0x90, 0xBF, by simp [hF0], by omega, by omega⟩
  by_cases hF4 : n / 0x40000 = 4
  · rw [if_neg (by omega), if_neg (by omega), if_pos (by omega)]
    exact ⟨0x80, 0x8F, by rw [hF4], by omega, by omega⟩
  · rw [if_neg (by omega), if_pos (by omega), Nat.add_sub_cancel_left]
    exact ⟨0x80, 0xBF, rfl, by omega, by omega⟩

/-- The reader takes the bytes of a code point for that code point; surrogates have to be asked
for. -/
theorem next_utf8 (surrogates : Bool) (c : CodePoint) (more : Bytes)
    (hc : surrogates = true ∨ c.isSurrogate = false) :
    ∃ byte rest, c.utf8 ++ more = byte :: rest ∧ next surrogates byte rest = (some c, more) := by
  rw [CodePoint.isSurrogate_eq_false_iff] at hc
  have hrange := c.inRange
  have hfound := c.ofNat?_value
  by_cases h1 : c.value < 0x80
  · refine ⟨c.value.toUInt8, more, by simp [CodePoint.utf8, h1], ?_⟩
    have hbyte : c.value.toUInt8.toNat = c.value := by
      simp
      omega
    have hshort : c.value.toUInt8 < 0x80 := by
      rw [UInt8.lt_iff_toNat_lt, hbyte]
      exact h1
    simp only [next, if_pos hshort, hbyte, hfound]
  by_cases h2 : c.value < 0x800
  · refine ⟨_, _, by simp only [CodePoint.utf8, h1, h2, if_true, if_false, List.cons_append,
      List.nil_append]; rfl, ?_⟩
    rw [next_of_lead _ (by omega) (by omega) (lead?_two (by omega) h2)]
    dsimp only
    rw [continuation_step _ _ _ _ _ _ (by omega) (by omega) (by omega)]
    have hvalue : c.value / 0x40 * 0x40 + c.value % 0x40 = c.value := by omega
    simp only [hvalue, Option.bind_some, hfound]
  by_cases h3 : c.value < 0x10000
  · refine ⟨_, _, by simp only [CodePoint.utf8, h1, h2, h3, if_true, if_false, List.cons_append,
      List.nil_append]; rfl, ?_⟩
    obtain ⟨low, high, hlead, hlow, hhigh⟩ := lead?_three (by omega) h3 hc
    rw [next_of_lead _ (by omega) (by omega) hlead]
    rw [continuation_step _ _ _ _ _ _ hlow hhigh (by omega)]
    simp only
    rw [continuation_step _ _ _ _ _ _ (by omega) (by omega) (by omega)]
    have hvalue : (c.value / 0x1000 * 0x40 + c.value / 0x40 % 0x40) * 0x40 + c.value % 0x40 =
        c.value := by omega
    simp only [hvalue, Option.bind_some, hfound]
  · refine ⟨_, _, by simp only [CodePoint.utf8, h1, h2, h3, if_false, List.cons_append,
      List.nil_append]; rfl, ?_⟩
    obtain ⟨low, high, hlead, hlow, hhigh⟩ := lead?_four (by omega) hrange
    rw [next_of_lead _ (by omega) (by omega) hlead]
    rw [continuation_step _ _ _ _ _ _ hlow hhigh (by omega)]
    simp only
    rw [continuation_step _ _ _ _ _ _ (by omega) (by omega) (by omega)]
    simp only
    rw [continuation_step _ _ _ _ _ _ (by omega) (by omega) (by omega)]
    have hvalue : ((c.value / 0x40000 * 0x40 + c.value / 0x1000 % 0x40) * 0x40 +
        c.value / 0x40 % 0x40) * 0x40 + c.value % 0x40 = c.value := by omega
    simp only [hvalue, Option.bind_some, hfound]

theorem decodeReplacing_utf8_append {c : CodePoint} (hc : c.isSurrogate = false) (more : Bytes) :
    decodeReplacing (c.utf8 ++ more) = c :: decodeReplacing more := by
  obtain ⟨byte, rest, hbytes, hnext⟩ := next_utf8 false c more (Or.inr hc)
  rw [hbytes, decodeReplacing, hnext]
  rfl

private theorem decode?_utf8_append (c : CodePoint) (more : Bytes) :
    decode? (c.utf8 ++ more) = (decode? more).map (c :: ·) := by
  obtain ⟨byte, rest, hbytes, hnext⟩ := next_utf8 true c more (Or.inl rfl)
  rw [hbytes, decode?, hnext]

theorem decodeReplacing_encoded {text : Text} (htext : ∀ c ∈ text, c.isSurrogate = false) :
    decodeReplacing (text.flatMap CodePoint.utf8) = text := by
  induction text with
  | nil => simp [decodeReplacing]
  | cons c rest ih =>
    rw [List.flatMap_cons, decodeReplacing_utf8_append (htext c (by simp)),
      ih fun d hd => htext d (List.mem_cons_of_mem c hd)]

theorem decode?_encoded (text : Text) : decode? (text.flatMap CodePoint.utf8) = some text := by
  induction text with
  | nil => simp [decode?]
  | cons c rest ih => rw [List.flatMap_cons, decode?_utf8_append, ih, Option.map_some]

theorem flatMap_utf8_injective :
    Function.Injective fun text : Text => text.flatMap CodePoint.utf8 := by
  intro text other h
  have hdecode := congrArg decode? h
  simp only [decode?_encoded] at hdecode
  exact Option.some.inj hdecode

private theorem firstSurrogate?_eq_none_iff {position : Nat} {text : Text} :
    firstSurrogate? position text = none ↔ text.IsEncodable := by
  induction text generalizing position with
  | nil => simp [firstSurrogate?, Text.IsEncodable]
  | cons c rest ih =>
    rw [firstSurrogate?, Text.IsEncodable, List.forall_mem_cons, ← Text.IsEncodable,
      ← @ih (position + 1)]
    cases c.isSurrogate <;> simp

theorem encode_eq_ok {text : Text} (htext : text.IsEncodable) :
    encode text = .ok (text.flatMap CodePoint.utf8) := by
  rw [encode, firstSurrogate?_eq_none_iff.mpr htext]

/-- Only a surrogate keeps a text from having bytes. -/
theorem exists_encode_eq_error_iff {text : Text} :
    (∃ run, encode text = .error run) ↔ ¬ text.IsEncodable := by
  rw [← @firstSurrogate?_eq_none_iff 0, encode]
  cases firstSurrogate? 0 text <;> simp

theorem encode_bind_eq_ok_iff {α : Type} {text : Text} {next : Bytes → Except Unencodable α}
    {result : α} : (encode text >>= next) = .ok result ↔
      text.IsEncodable ∧ next (text.flatMap CodePoint.utf8) = .ok result := by
  by_cases htext : text.IsEncodable
  · rw [encode_eq_ok htext, and_iff_right htext]
    exact Iff.rfl
  · obtain ⟨run, hrun⟩ := exists_encode_eq_error_iff.mpr htext
    rw [hrun]
    constructor
    · intro hresult
      cases hresult
    · intro hresult
      exact absurd hresult.1 htext

end Utf8

end SnippetReview
