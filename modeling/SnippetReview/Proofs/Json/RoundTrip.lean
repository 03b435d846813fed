import SnippetReview.Proofs.Json.Limit
import SnippetReview.Proofs.Json.Number
import SnippetReview.Proofs.Json.Quoted

/-!
Reading inverts printing for JSON values: a value whose strings are texts of characters and whose
integers are short enough to be written is what its compact text is read as.
-/

set_option autoImplicit false

namespace SnippetReview.Json

mutual

/-- Whether the text of a value stands for it: strings are without surrogates, integers are short
enough to be written, and there are no numbers that are kept as they were written. -/
def isReadable : Json → Bool
  | null => true
  | bool _ => true
  | int value => Numeral.writable value
  | real _ => false
  | str value => value.all (!·.isSurrogate)
  | arr items => areReadable items
  | obj members => haveReadable members

def areReadable : List Json → Bool
  | [] => true
  | item :: rest => item.isReadable && areReadable rest

def haveReadable : List (Text × Json) → Bool
  | [] => true
  | (name, value) :: rest =>
    name.all (!·.isSurrogate) && value.isReadable && haveReadable rest

end

private theorem skipSpace_cons {c : CodePoint} (hc : isSpace c = false) (rest : Text) :
    skipSpace (c :: rest) = c :: rest := by
  simp [skipSpace, hc]

private theorem string?_quote {text : Text} (htext : text.all (!·.isSurrogate) = true)
    (rest : Text) :
    ∃ more, quote text ++ rest = CodePoint.ofChar '"' :: more ∧
      string? more = some (text, rest) := by
  have hplain : ∀ c ∈ text, c.isSurrogate = false := by simpa using htext
  exact ⟨_, by simp only [quote, List.cons_append, List.append_assoc]; rfl,
    string?_escaped hplain rest⟩

private theorem exists_compact_eq_cons {value : Json} (hvalue : value.isReadable = true) :
    ∃ c more, value.compact = c :: more ∧ isSpace c = false ∧ c ≠ CodePoint.ofChar ']' := by
  cases value with
  | null => exact ⟨_, _, rfl, by decide, by decide⟩
  | bool value => cases value <;> exact ⟨_, _, rfl, by decide, by decide⟩
  | int n =>
    obtain ⟨sign, digit, more, hnumeral, hdigit, hsign⟩ := exists_ofInt_eq_cons n
    rw [compact, hnumeral]
    rcases hsign with rfl | rfl
    · refine ⟨digit, more, rfl, ?_, ?_⟩
      · rw [CodePoint.isAsciiDigit_iff] at hdigit
        have hne : ∀ c : Char, c.toNat < 0x30 → digit ≠ CodePoint.ofChar c := by
          intro c hc
          exact CodePoint.ne_of_value_ne (by simp; omega)
        simp [isSpace, hne]
      · rintro rfl
        revert hdigit
        decide
    · exact ⟨_, _, rfl, by decide, by decide⟩
  | real written => simp [isReadable] at hvalue
  | str text => exact ⟨_, _, rfl, by decide, by decide⟩
  | arr items => exact ⟨_, _, rfl, by decide, by decide⟩
  | obj members => exact ⟨_, _, rfl, by decide, by decide⟩

private theorem exists_compactItems_eq_cons {item : Json} {items : List Json}
    (hread : areReadable (item :: items) = true) : ∃ c more,
    compactItems (item :: items) = c :: more ∧ isSpace c = false ∧ c ≠ CodePoint.ofChar ']' := by
  rw [areReadable, Bool.and_eq_true] at hread
  obtain ⟨c, more, hitem, hspace, hclose⟩ := exists_compact_eq_cons hread.1
  cases items with
  | nil => exact ⟨c, more, by rw [compactItems, hitem], hspace, hclose⟩
  | cons next items =>
    exact ⟨c, _, by rw [compactItems, hitem, List.cons_append], hspace, hclose⟩

private theorem exists_compactMembers_eq_cons (member : Text × Json)
    (members : List (Text × Json)) :
    ∃ more, compactMembers (member :: members) = CodePoint.ofChar '"' :: more := by
  cases members with
  | nil => exact ⟨_, by rw [compactMembers, quote, List.cons_append, List.cons_append]⟩
  | cons next members =>
    exact ⟨_, by rw [compactMembers, quote, List.cons_append, List.cons_append, List.cons_append]⟩

section Reading

variable {fuel levels : Nat}

private theorem readMore_closing {α : Type} {closing : CodePoint} {first : α}
    {more : Text → Except ReadError (List α × Text)} (hclosing : isSpace closing = false)
    (rest : Text) : readMore levels closing more first (closing :: rest) = .ok ([first], rest) := by
  rw [readMore, skipSpace_cons hclosing]
  exact if_pos rfl

private theorem readMore_comma {α : Type} {closing : CodePoint} {first : α} {others : List α}
    {more : Text → Except ReadError (List α × Text)} {text rest : Text}
    (hclosing : CodePoint.ofChar ',' ≠ closing)
    (hmore : more (skipSpace text) = .ok (others, rest)) :
    readMore levels closing more first (CodePoint.ofChar ',' :: text) =
      .ok (first :: others, rest) := by
  rw [readMore, skipSpace_cons (by decide)]
  dsimp only
  rw [if_neg hclosing, if_pos rfl, hmore]
  rfl

private theorem readItems_of_readValue {text rest : Text} {item : Json}
    (hitem : readValue fuel levels text = .ok (item, rest)) :
    readItems (fuel + 1) levels text =
      readMore levels (CodePoint.ofChar ']') (readItems fuel levels) item rest := by
  rw [readItems, hitem]
  rfl

private theorem readMembers_of_readValue {text more rest name : Text} {value : Json}
    (hname : string? text = some (name, CodePoint.ofChar ':' :: more))
    (hvalue : readValue fuel levels (skipSpace more) = .ok (value, rest)) :
    readMembers (fuel + 1) levels (CodePoint.ofChar '"' :: text) =
      readMore levels (CodePoint.ofChar '\x7d') (readMembers fuel levels) (name, value) rest := by
  have hread : readName levels (CodePoint.ofChar '"' :: text) = .ok (name, skipSpace more) := by
    rw [readName, if_pos rfl, hname]
    dsimp only
    rw [skipSpace_cons (by decide)]
    exact if_pos rfl
  rw [readMembers, hread]
  change (readValue fuel levels (skipSpace more) >>= _) = _
  rw [hvalue]
  rfl

private theorem readValue_of_scalar? {c : CodePoint} {text rest : Text} {value : Json}
    (hquote : c ≠ CodePoint.ofChar '"') (hbracket : c ≠ CodePoint.ofChar '[')
    (hbrace : c ≠ CodePoint.ofChar '\x7b') (hscalar : scalar? (c :: text) = some (value, rest))
    (hlevels : value.levels ≤ levels) :
    readValue (fuel + 1) levels (c :: text) = .ok (value, rest) := by
  rw [readValue]
  rw [if_neg hquote, if_neg hbracket, if_neg hbrace, readScalar, hscalar]
  exact if_pos hlevels

private theorem readValue_compact_int {n : Int} (hn : Numeral.writable n = true) {rest : Text}
    (hrest : EndsNumber rest) :
    readValue (fuel + 1) levels ((int n).compact ++ rest) = .ok (int n, rest) := by
  have hscalar := scalar?_ofInt hn hrest
  have hlevels : (int n).levels ≤ levels := Nat.zero_le _
  obtain ⟨sign, digit, more, hnumeral, hdigit, hsign⟩ := exists_ofInt_eq_cons n
  rw [CodePoint.isAsciiDigit_iff] at hdigit
  have hne : ∀ c : Char, c.toNat < 0x30 ∨ 0x39 < c.toNat → digit ≠ CodePoint.ofChar c := by
    intro c hc
    exact CodePoint.ne_of_value_ne (by simp; omega)
  rw [compact]
  rw [hnumeral] at hscalar ⊢
  rcases hsign with rfl | rfl
  · exact readValue_of_scalar? (hne _ (by decide)) (hne _ (by decide)) (hne _ (by decide)) hscalar
      hlevels
  · exact readValue_of_scalar? (by decide) (by decide) (by decide) hscalar hlevels

mutual

private theorem readValue_compact : ∀ (value : Json) (fuel levels : Nat) (rest : Text),
    value.isReadable = true → value.compact.length < fuel → value.levels ≤ levels →
    EndsNumber rest → readValue fuel levels (value.compact ++ rest) = .ok (value, rest)
  | _, 0, _, _, _, hfuel, _, _ => absurd hfuel (Nat.not_lt_zero _)
  | null, fuel + 1, levels, rest, _, _, hlevels, _ =>
    readValue_of_scalar? (by decide) (by decide) (by decide) rfl hlevels
  | bool true, fuel + 1, levels, rest, _, _, hlevels, _ =>
    readValue_of_scalar? (by decide) (by decide) (by decide) rfl hlevels
  | bool false, fuel + 1, levels, rest, _, _, hlevels, _ =>
    readValue_of_scalar? (by decide) (by decide) (by decide) rfl hlevels
  | int n, fuel + 1, _, rest, hread, _, _, hrest => readValue_compact_int hread hrest
  | real written, _, _, _, hread, _, _, _ => by simp [isReadable] at hread
  | str text, fuel + 1, _, rest, hread, _, _, _ => by
    obtain ⟨more, htext, hstring⟩ := string?_quote hread rest
    rw [compact, htext, readValue]
    rw [if_pos rfl, hstring]
  | arr _, _, 0, _, _, _, hlevels, _ => absurd hlevels (Nat.not_succ_le_zero _)
  | arr [], fuel + 1, levels + 1, rest, _, _, _, _ => rfl
  | arr (item :: items), fuel + 1, levels + 1, rest, hread, hfuel, hlevels, _ => by
    obtain ⟨c, more, hhead, hspace, hclose⟩ := exists_compactItems_eq_cons hread
    have hitems := readItems_compact (item :: items) fuel levels rest (by simp) hread (by
      simp only [compact, List.length_append, List.length_cons, List.length_nil] at hfuel
      omega) (Nat.le_of_succ_le_succ hlevels)
    rw [hhead, List.cons_append] at hitems
    simp only [compact, hhead, List.cons_append, List.append_assoc, List.nil_append]
    rw [readValue]
    rw [if_neg (by decide), if_pos rfl, deeper, skipSpace_cons hspace]
    dsimp only
    rw [if_neg hclose, hitems]
    rfl
  | obj _, _, 0, _, _, _, hlevels, _ => absurd hlevels (Nat.not_succ_le_zero _)
  | obj [], fuel + 1, levels + 1, rest, _, _, _, _ => rfl
  | obj (member :: members), fuel + 1, levels + 1, rest, hread, hfuel, hlevels, _ => by
    obtain ⟨more, hhead⟩ := exists_compactMembers_eq_cons member members
    have hmembers := readMembers_compact (member :: members) fuel levels rest (by simp) hread (by
      simp only [compact, List.length_append, List.length_cons, List.length_nil] at hfuel
      omega) (Nat.le_of_succ_le_succ hlevels)
    rw [hhead, List.cons_append] at hmembers
    simp only [compact, hhead, List.cons_append, List.append_assoc, List.nil_append]
    rw [readValue]
    rw [if_neg (by decide), if_neg (by decide), if_pos rfl, deeper, skipSpace_cons (by decide)]
    dsimp only
    rw [if_neg (by decide), hmembers]
    rfl

private theorem readItems_compact :
    ∀ (items : List Json) (fuel levels : Nat) (rest : Text), items ≠ [] →
    areReadable items = true → (compactItems items).length + 1 < fuel →
    levelsOfItems items ≤ levels →
    readItems fuel levels (compactItems items ++ CodePoint.ofChar ']' :: rest) = .ok (items, rest)
  | [], _, _, _, hne, _, _, _ => absurd rfl hne
  | _ :: _, 0, _, _, _, _, hfuel, _ => absurd hfuel (Nat.not_lt_zero _)
  | [item], fuel + 1, levels, rest, _, hread, hfuel, hlevels => by
    simp only [areReadable, Bool.and_true] at hread
    simp only [compactItems] at hfuel ⊢
    rw [readItems_of_readValue (readValue_compact item fuel levels _ hread (by omega)
      (Nat.le_trans (Nat.le_max_left ..) hlevels)
      (endsNumber_cons rest (by decide) (by decide) (by decide) (by decide)))]
    refine readMore_closing ?_ rest
    decide
  | item :: next :: items, fuel + 1, levels, rest, _, hread, hfuel, hlevels => by
    rw [areReadable, Bool.and_eq_true] at hread
    rw [levelsOfItems, Nat.max_le] at hlevels
    obtain ⟨c, more, hhead, hspace, -⟩ := exists_compactItems_eq_cons hread.2
    simp only [compactItems, List.length_append, List.length_cons] at hfuel ⊢
    have hitems := readItems_compact (next :: items) fuel levels rest (by simp) hread.2 (by omega)
      hlevels.2
    rw [List.append_assoc, List.cons_append, readItems_of_readValue
      (readValue_compact item fuel levels _ hread.1 (by omega) hlevels.1
        (endsNumber_cons _ (by decide) (by decide) (by decide) (by decide)))]
    refine readMore_comma (show CodePoint.ofChar ',' ≠ CodePoint.ofChar ']' by decide) ?_
    rw [hhead, List.cons_append] at hitems ⊢
    rw [skipSpace_cons hspace, hitems]

private theorem readMembers_compact :
    ∀ (members : List (Text × Json)) (fuel levels : Nat) (rest : Text),
    members ≠ [] → haveReadable members = true → (compactMembers members).length + 1 < fuel →
    levelsOfMembers members ≤ levels →
    readMembers fuel levels (compactMembers members ++ CodePoint.ofChar '\x7d' :: rest) =
      .ok (members, rest)
  | [], _, _, _, hne, _, _, _ => absurd rfl hne
  | _ :: _, 0, _, _, _, _, hfuel, _ => absurd hfuel (Nat.not_lt_zero _)
  | [(name, value)], fuel + 1, levels, rest, _, hread, hfuel, hlevels => by
    simp only [haveReadable, Bool.and_true, Bool.and_eq_true] at hread
    obtain ⟨c, more, hhead, hspace, -⟩ := exists_compact_eq_cons hread.2
    simp only [compactMembers, List.length_append, List.length_cons] at hfuel ⊢
    have hvalue := readValue_compact value fuel levels (CodePoint.ofChar '\x7d' :: rest) hread.2
      (by omega) (Nat.le_trans (Nat.le_max_left ..) hlevels)
      (endsNumber_cons rest (by decide) (by decide) (by decide) (by decide))
    obtain ⟨text, htext, hname⟩ := string?_quote hread.1
      (CodePoint.ofChar ':' :: (value.compact ++ CodePoint.ofChar '\x7d' :: rest))
    rw [hhead, List.cons_append] at hvalue hname
    rw [← skipSpace_cons hspace] at hvalue
    rw [List.append_assoc, List.cons_append, htext, readMembers_of_readValue hname hvalue]
    refine readMore_closing ?_ rest
    decide
  | (name, value) :: next :: members, fuel + 1, levels, rest, _, hread, hfuel, hlevels => by
    rw [haveReadable, Bool.and_eq_true, Bool.and_eq_true] at hread
    rw [levelsOfMembers, Nat.max_le] at hlevels
    obtain ⟨c, more, hhead, hspace, -⟩ := exists_compact_eq_cons hread.1.2
    obtain ⟨others, hothers⟩ := exists_compactMembers_eq_cons next members
    simp only [compactMembers, List.length_append, List.length_cons] at hfuel ⊢
    have hmembers := readMembers_compact (next :: members) fuel levels rest (by simp) hread.2
      (by omega) hlevels.2
    have hvalue := readValue_compact value fuel levels (CodePoint.ofChar ',' ::
      (compactMembers (next :: members) ++ CodePoint.ofChar '\x7d' :: rest)) hread.1.2 (by omega)
      hlevels.1 (endsNumber_cons _ (by decide) (by decide) (by decide) (by decide))
    obtain ⟨text, htext, hname⟩ := string?_quote hread.1.1 (CodePoint.ofChar ':' ::
      (value.compact ++ CodePoint.ofChar ',' ::
        (compactMembers (next :: members) ++ CodePoint.ofChar '\x7d' :: rest)))
    rw [hhead, List.cons_append] at hvalue hname
    rw [← skipSpace_cons hspace] at hvalue
    simp only [List.append_assoc, List.cons_append]
    rw [htext, readMembers_of_readValue hname hvalue]
    refine readMore_comma (show CodePoint.ofChar ',' ≠ CodePoint.ofChar '\x7d' by decide) ?_
    rw [hothers, List.cons_append] at hmembers ⊢
    rw [skipSpace_cons (by decide), hmembers]

end

end Reading

mutual

theorem compact_ascii : ∀ value : Json, value.isReadable = true →
    ∀ c ∈ value.compact, c.value < 0x80
  | null, _ => by decide
  | bool true, _ => by decide
  | bool false, _ => by decide
  | int n, _ => by
    intro c hc
    rw [compact, Numeral.ofInt_eq, List.mem_append] at hc
    rcases hc with hc | hc
    · split at hc
      · rw [List.mem_singleton] at hc
        exact hc ▸ by decide
      · simp at hc
    · have hdigit := CodePoint.isAsciiDigit_iff.mp (Numeral.isAsciiDigit_of_mem_ofNat hc)
      omega
  | real written, hread => by simp [isReadable] at hread
  | str text, _ => fun _ => ascii_of_mem_quote
  | arr items, hread => by
    have hitems := compactItems_ascii items hread
    simp only [compact, List.cons_append, List.mem_cons, List.mem_append, List.not_mem_nil,
      or_false]
    rintro c (rfl | hc | rfl)
    · decide
    · exact hitems c hc
    · decide
  | obj members, hread => by
    have hmembers := compactMembers_ascii members hread
    simp only [compact, List.cons_append, List.mem_cons, List.mem_append, List.not_mem_nil,
      or_false]
    rintro c (rfl | hc | rfl)
    · decide
    · exact hmembers c hc
    · decide

private theorem compactItems_ascii : ∀ items : List Json, areReadable items = true →
    ∀ c ∈ compactItems items, c.value < 0x80
  | [], _ => by simp [compactItems]
  | [item], hread => by
    rw [areReadable, Bool.and_eq_true] at hread
    exact compact_ascii item hread.1
  | item :: next :: items, hread => by
    rw [areReadable, Bool.and_eq_true] at hread
    simp only [compactItems, List.mem_append, List.mem_cons]
    rintro c (hc | rfl | hc)
    · exact compact_ascii item hread.1 c hc
    · decide
    · exact compactItems_ascii (next :: items) hread.2 c hc

private theorem compactMembers_ascii : ∀ members : List (Text × Json), haveReadable members = true →
    ∀ c ∈ compactMembers members, c.value < 0x80
  | [], _ => by simp [compactMembers]
  | [(name, value)], hread => by
    rw [haveReadable, Bool.and_eq_true, Bool.and_eq_true] at hread
    simp only [compactMembers, List.mem_append, List.mem_cons]
    rintro c (hc | rfl | hc)
    · exact ascii_of_mem_quote hc
    · decide
    · exact compact_ascii value hread.1.2 c hc
  | (name, value) :: next :: members, hread => by
    rw [haveReadable, Bool.and_eq_true, Bool.and_eq_true] at hread
    simp only [compactMembers, List.mem_append, List.mem_cons]
    rintro c ((hc | rfl | hc) | rfl | hc)
    · exact ascii_of_mem_quote hc
    · decide
    · exact compact_ascii value hread.1.2 c hc
    · decide
    · exact compactMembers_ascii (next :: members) hread.2 c hc

end

/-- Reading inverts printing. -/
theorem read?_compact {value : Json} (hread : value.isReadable = true) :
    read? value.compact = some value := by
  obtain ⟨c, more, hhead, hspace, -⟩ := exists_compact_eq_cons hread
  have hskip : skipSpace value.compact = value.compact := by
    rw [hhead, skipSpace_cons hspace]
  have hvalue := readValue_compact value (2 * value.compact.length + 2)
    (value.levels + complaintLevels) [] hread (by omega) (Nat.le_add_right ..) endsNumber_nil
  rw [List.append_nil] at hvalue
  -- The value is read with as many levels as it takes, hence without a limit as well.
  have hlimit : read value.levels value.compact = .ok value := by
    rw [read, hskip, hvalue]
    rfl
  exact (read_eq_ok_iff.mp hlimit).1

end SnippetReview.Json
