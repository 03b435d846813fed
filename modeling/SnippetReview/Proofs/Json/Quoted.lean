import SnippetReview.Json.Printer
import SnippetReview.Json.Reader
import SnippetReview.Proofs.Text.Numeral
import SnippetReview.Proofs.Text.Utf8

/-!
JSON strings: what stands between the quotes is ASCII, and a text of characters is read back from
it.
-/

set_option autoImplicit false

namespace SnippetReview.Json

private theorem hexDigit?_digitChar {n : Nat} (hn : n < 16) :
    hexDigit? (CodePoint.ofChar (Nat.digitChar n)) = some n := by
  revert n
  decide

private theorem unit?_hex {n : Nat} (hn : n < 0x10000) :
    ∃ a b c d, Numeral.hex 4 n = [a, b, c, d] ∧ unit? a b c d = some n := by
  refine ⟨_, _, _, _, rfl, ?_⟩
  simp only [unit?, hexDigit?_digitChar (Nat.mod_lt _ (by decide : 0 < 16)), Option.pure_def,
    Option.bind_eq_bind, Option.bind_some]
  congr 1
  omega

private theorem pieces?_escapeUnit {n : Nat} (hn : n < 0x10000) (more : Text) :
    pieces? (escapeUnit n ++ more) =
      (pieces? more).map fun found => (.unit n :: found.1, found.2) := by
  obtain ⟨a, b, c, d, hhex, hunit⟩ := unit?_hex hn
  have hslash : CodePoint.ofChar '\\' ≠ CodePoint.ofChar '"' := by decide
  simp only [escapeUnit, hhex, List.cons_append, List.nil_append]
  rw [pieces?.eq_def]
  dsimp only
  rw [if_neg hslash, if_pos rfl, if_pos rfl, hunit]
  cases pieces? more <;> rfl

private theorem pieces?_shortEscape {kind c : CodePoint} (hkind : kind ≠ CodePoint.ofChar 'u')
    (hshort : shortEscape? kind = some c) (more : Text) :
    pieces? (CodePoint.ofChar '\\' :: kind :: more) =
      (pieces? more).map fun found => (.plain c :: found.1, found.2) := by
  have hslash : CodePoint.ofChar '\\' ≠ CodePoint.ofChar '"' := by decide
  rw [pieces?.eq_def]
  dsimp only
  rw [if_neg hslash, if_pos rfl, if_neg hkind, hshort]
  cases pieces? more <;> rfl

private theorem pieces?_plain {c : CodePoint} (hquote : c ≠ CodePoint.ofChar '"')
    (hslash : c ≠ CodePoint.ofChar '\\') (hprint : 0x20 ≤ c.value) (more : Text) :
    pieces? (c :: more) = (pieces? more).map fun found => (.plain c :: found.1, found.2) := by
  rw [pieces?.eq_def]
  dsimp only
  rw [if_neg hquote, if_neg hslash, if_neg (Nat.not_lt.mpr hprint)]
  cases pieces? more <;> rfl

private theorem textOfPieces_unit {n : Nat} (hn : n < 0xD800 ∨ 0xDBFF < n) (more : List Piece) :
    textOfPieces (.unit n :: more) = (CodePoint.ofNat? n).toList ++ textOfPieces more := by
  cases more with
  | nil => simp [textOfPieces]
  | cons piece more =>
    cases piece with
    | plain c => simp [textOfPieces]
    | unit low =>
      have hpair : surrogatePair? n low = none := if_neg (by omega)
      simp [textOfPieces, hpair]

private theorem surrogatePair?_split {c : CodePoint} (hc : 0x10000 ≤ c.value) :
    surrogatePair? (0xD800 + (c.value - 0x10000) / 0x400)
      (0xDC00 + (c.value - 0x10000) % 0x400) = some c := by
  have hrange := c.inRange
  have hvalue : 0x10000 + (0xD800 + (c.value - 0x10000) / 0x400 - 0xD800) * 0x400 +
      (0xDC00 + (c.value - 0x10000) % 0x400 - 0xDC00) = c.value := by omega
  rw [surrogatePair?, if_pos (by omega), hvalue, c.ofNat?_value]

private theorem textOfPieces_pair {high low : Nat} {c : CodePoint}
    (hpair : surrogatePair? high low = some c) (more : List Piece) :
    textOfPieces (.unit high :: .unit low :: more) = c :: textOfPieces more := by
  simp only [textOfPieces, hpair]

/-- A code point is escaped by a letter, stands for itself, or is written as one or two units. -/
private theorem escape_cases (c : CodePoint) :
    (∃ kind, kind ≠ CodePoint.ofChar 'u' ∧ kind.value < 0x80 ∧ shortEscape? kind = some c ∧
      escape c = [CodePoint.ofChar '\\', kind]) ∨
    (c ≠ CodePoint.ofChar '"' ∧ c ≠ CodePoint.ofChar '\\' ∧ 0x20 ≤ c.value ∧ c.value < 0x80 ∧
      escape c = [c]) ∨
    (c.value < 0x10000 ∧ escape c = escapeUnit c.value) ∨
    (0x10000 ≤ c.value ∧ escape c = escapeUnit (0xD800 + (c.value - 0x10000) / 0x400) ++
      escapeUnit (0xDC00 + (c.value - 0x10000) % 0x400)) := by
  by_cases hshort : c ∈ (['"', '\\', '\n', '\r', '\t', '\x08', '\x0c'].map CodePoint.ofChar)
  · left
    simp only [List.map_cons, List.map_nil, List.mem_cons, List.not_mem_nil, or_false] at hshort
    rcases hshort with rfl | rfl | rfl | rfl | rfl | rfl | rfl
    · exact ⟨CodePoint.ofChar '"', by decide, by decide, by decide, by decide⟩
    · exact ⟨CodePoint.ofChar '\\', by decide, by decide, by decide, by decide⟩
    · exact ⟨CodePoint.ofChar 'n', by decide, by decide, by decide, by decide⟩
    · exact ⟨CodePoint.ofChar 'r', by decide, by decide, by decide, by decide⟩
    · exact ⟨CodePoint.ofChar 't', by decide, by decide, by decide, by decide⟩
    · exact ⟨CodePoint.ofChar 'b', by decide, by decide, by decide, by decide⟩
    · exact ⟨CodePoint.ofChar 'f', by decide, by decide, by decide, by decide⟩
  · right
    simp only [List.map_cons, List.map_nil, List.mem_cons, List.not_mem_nil, or_false, not_or]
      at hshort
    obtain ⟨hquote, hslash, hfeed, hreturn, htab, hback, hpage⟩ := hshort
    have hescape : escape c = if 0x20 ≤ c.value ∧ c.value ≤ 0x7E then [c]
        else if c.value < 0x10000 then escapeUnit c.value
        else escapeUnit (0xD800 + (c.value - 0x10000) / 0x400) ++
          escapeUnit (0xDC00 + (c.value - 0x10000) % 0x400) := by
      rw [escape, if_neg hquote, if_neg hslash, if_neg hfeed, if_neg hreturn, if_neg htab,
        if_neg hback, if_neg hpage]
    rw [hescape]
    by_cases hprint : 0x20 ≤ c.value ∧ c.value ≤ 0x7E
    · exact Or.inl ⟨hquote, hslash, hprint.1, by omega, if_pos hprint⟩
    by_cases hplane : c.value < 0x10000
    · exact Or.inr (Or.inl ⟨hplane, by rw [if_neg hprint, if_pos hplane]⟩)
    · exact Or.inr (Or.inr ⟨Nat.not_lt.mp hplane, by rw [if_neg hprint, if_neg hplane]⟩)

private theorem ascii_of_mem_hex {width n : Nat} {c : CodePoint} (hc : c ∈ Numeral.hex width n) :
    c.value < 0x80 := by
  have hascii : ∀ d < 16, (CodePoint.ofChar (Nat.digitChar d)).value < 0x80 := by decide
  obtain ⟨digit, hdigit, rfl⟩ := Numeral.exists_digit_of_mem_hex hc
  exact hascii digit hdigit

private theorem ascii_of_mem_escapeUnit {n : Nat} {c : CodePoint} (hc : c ∈ escapeUnit n) :
    c.value < 0x80 := by
  simp only [escapeUnit, List.mem_cons] at hc
  rcases hc with rfl | rfl | hc
  · decide
  · decide
  · exact ascii_of_mem_hex hc

private theorem ascii_of_mem_escape {c d : CodePoint} (hd : d ∈ escape c) : d.value < 0x80 := by
  rcases escape_cases c with ⟨kind, -, hkind, -, hescape⟩ | ⟨-, -, -, hc, hescape⟩ | ⟨-, hescape⟩ |
    ⟨-, hescape⟩
  · rw [hescape, List.mem_cons, List.mem_singleton] at hd
    rcases hd with rfl | rfl
    · decide
    · exact hkind
  · rw [hescape, List.mem_singleton] at hd
    exact hd ▸ hc
  · rw [hescape] at hd
    exact ascii_of_mem_escapeUnit hd
  · rw [hescape, List.mem_append] at hd
    exact hd.elim ascii_of_mem_escapeUnit ascii_of_mem_escapeUnit

theorem ascii_of_mem_quote {text : Text} {c : CodePoint} (hc : c ∈ quote text) :
    c.value < 0x80 := by
  simp only [quote, List.cons_append, List.mem_cons, List.mem_append, List.mem_flatMap,
    List.not_mem_nil, or_false] at hc
  rcases hc with rfl | ⟨d, -, hc⟩ | rfl
  · decide
  · exact ascii_of_mem_escape hc
  · decide

private theorem exists_pieces_escape {c : CodePoint} (hc : c.isSurrogate = false) :
    ∃ pieces, (∀ more, pieces? (escape c ++ more) =
        (pieces? more).map fun found => (pieces ++ found.1, found.2)) ∧
      ∀ more, textOfPieces (pieces ++ more) = c :: textOfPieces more := by
  rw [CodePoint.isSurrogate_eq_false_iff] at hc
  rcases escape_cases c with
    ⟨kind, hkind, -, hshort, hescape⟩ | ⟨hquote, hslash, hprint, -, hescape⟩ |
    ⟨hplane, hescape⟩ | ⟨hplane, hescape⟩
  · rw [hescape]
    exact ⟨[.plain c], pieces?_shortEscape hkind hshort, fun more => rfl⟩
  · rw [hescape]
    exact ⟨[.plain c], pieces?_plain hquote hslash hprint, fun more => rfl⟩
  · rw [hescape]
    refine ⟨[.unit c.value], pieces?_escapeUnit hplane, fun more => ?_⟩
    rw [List.singleton_append, textOfPieces_unit (by omega), c.ofNat?_value]
    rfl
  · have hrange := c.inRange
    rw [hescape]
    refine ⟨[.unit _, .unit _], fun more => ?_,
      textOfPieces_pair (surrogatePair?_split hplane)⟩
    rw [List.append_assoc, pieces?_escapeUnit (by omega), pieces?_escapeUnit (by omega)]
    cases pieces? more <;> rfl

/-- A text of characters is read back from its escapes, up to the closing quote. -/
theorem string?_escaped {text : Text} (htext : ∀ c ∈ text, c.isSurrogate = false) (rest : Text) :
    string? (text.flatMap escape ++ CodePoint.ofChar '"' :: rest) = some (text, rest) := by
  have hread : ∃ pieces, pieces? (text.flatMap escape ++ CodePoint.ofChar '"' :: rest) =
      some (pieces, rest) ∧ textOfPieces pieces = text := by
    induction text with
    | nil => exact ⟨[], by simp [pieces?.eq_def], rfl⟩
    | cons c text ih =>
      obtain ⟨pieces, hpieces, hstand⟩ := exists_pieces_escape (htext c (by simp))
      obtain ⟨more, hmore, hrest⟩ := ih fun d hd => htext d (List.mem_cons_of_mem c hd)
      refine ⟨pieces ++ more, ?_, by rw [hstand, hrest]⟩
      rw [List.flatMap_cons, List.append_assoc, hpieces, hmore, Option.map_some]
  obtain ⟨pieces, hpieces, hstand⟩ := hread
  simp only [string?, hpieces, Option.map_some, hstand]

end SnippetReview.Json
