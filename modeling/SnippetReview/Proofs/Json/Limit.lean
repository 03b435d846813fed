import SnippetReview.Json.Encoding
import SnippetReview.Proofs.Text.Utf8

/-!
The limit on nesting. A reader with a limit gives up, or it reads just what one without a limit
reads. Of what can be read it gives up on the values that take more levels than there are, and it
gives up on nothing that has no more opening brackets than the limit allows.
-/

set_option autoImplicit false

namespace SnippetReview.Json

/-- What comes out with so many levels, beside what comes out with at least as many. -/
inductive Limited {α : Type} (size : α → Nat) (levels : Nat) :
    Except ReadError α → Except ReadError α → Prop
  | ok {a : α} (h : size a ≤ levels) : Limited size levels (.ok a) (.ok a)
  | malformed : Limited size levels (.error .malformed) (.error .malformed)
  | tooDeep {outcome : Except ReadError α} (h : ∀ a, outcome = .ok a → levels < size a) :
    Limited size levels (.error .tooDeep) outcome

namespace Limited

variable {α β : Type} {size : α → Nat} {width : β → Nat} {levels : Nat}
  {outcome other : Except ReadError α}

private theorem bind {next beside : α → Except ReadError β} (h : Limited size levels outcome other)
    (hnext : ∀ a, size a ≤ levels → Limited width levels (next a) (beside a))
    (hwidth : ∀ a b, beside a = .ok b → size a ≤ width b) :
    Limited width levels (outcome >>= next) (other >>= beside) := by
  cases h with
  | ok h => exact hnext _ h
  | malformed => exact .malformed
  | tooDeep h =>
    refine .tooDeep fun b hb => ?_
    cases other with
    | error cause => cases hb
    | ok a => exact Nat.lt_of_lt_of_le (h a rfl) (hwidth a b hb)

private theorem map {hold : α → β} {inner : Nat} (h : Limited size inner outcome other)
    (hhold : ∀ a, width (hold a) ≤ levels ↔ size a ≤ inner) :
    Limited width levels (outcome.map hold) (other.map hold) := by
  cases h with
  | ok h => exact .ok ((hhold _).mpr h)
  | malformed => exact .malformed
  | tooDeep h =>
    refine .tooDeep fun b hb => ?_
    cases other with
    | error cause => cases hb
    | ok a =>
      cases hb
      exact Nat.lt_of_not_le (mt (hhold a).mp (Nat.not_le_of_lt (h a rfl)))

end Limited

section Limited

variable {levels more : Nat}

private theorem limited_complain {α : Type} {size : α → Nat} (hle : levels ≤ more) :
    Limited size levels (.error (complain levels)) (.error (complain more)) := by
  by_cases hlevels : levels < complaintLevels
  · rw [complain, if_pos hlevels]
    exact .tooDeep nofun
  · have hmore : ¬ more < complaintLevels := by omega
    rw [complain, complain, if_neg hlevels, if_neg hmore]
    exact .malformed

private theorem limited_readScalar (hle : levels ≤ more) (text : Text) :
    Limited (Json.levels ·.1) levels (readScalar levels text) (readScalar more text) := by
  rw [readScalar, readScalar]
  cases scalar? text with
  | none => exact .malformed
  | some found =>
    obtain ⟨value, rest⟩ := found
    dsimp only
    by_cases hvalue : value.levels ≤ levels
    · rw [if_pos hvalue, if_pos (Nat.le_trans hvalue hle)]
      exact .ok hvalue
    · rw [if_neg hvalue]
      refine .tooDeep fun found h => ?_
      split at h
      · cases h
        exact Nat.lt_of_not_le hvalue
      · cases h

private theorem limited_deeper {α : Type} {size : α → Nat} {hold : α → Json}
    {inside : Nat → Except ReadError (α × Text)} (hhold : ∀ a, (hold a).levels = size a + 1)
    (hle : levels ≤ more)
    (h : ∀ levels more, levels ≤ more → Limited (size ·.1) levels (inside levels) (inside more)) :
    Limited (Json.levels ·.1) levels (deeper levels hold inside) (deeper more hold inside) := by
  cases levels with
  | zero =>
    refine .tooDeep fun (value, rest) hvalue => ?_
    cases more with
    | zero => cases hvalue
    | succ more =>
      rw [deeper] at hvalue
      cases hinside : inside more with
      | error cause => rw [hinside] at hvalue; cases hvalue
      | ok found =>
        rw [hinside] at hvalue
        cases hvalue
        exact Nat.lt_of_lt_of_eq (Nat.succ_pos _) (hhold _).symm
  | succ levels =>
    obtain ⟨more, rfl⟩ := Nat.exists_eq_succ_of_ne_zero (Nat.ne_zero_of_lt hle)
    refine (h levels more (Nat.le_of_succ_le_succ hle)).map fun found => ?_
    rw [hhold, Nat.add_le_add_iff_right]

private theorem limited_readName (hle : levels ≤ more) (text : Text) :
    Limited (fun _ => 0) levels (readName levels text) (readName more text) := by
  cases text with
  | nil => exact limited_complain hle
  | cons c rest =>
    rw [readName, readName]
    split
    · cases string? rest with
      | none => exact limited_complain hle
      | some found =>
        dsimp only
        cases skipSpace found.2 with
        | nil => exact limited_complain hle
        | cons c rest =>
          dsimp only
          split
          · exact .ok (Nat.zero_le _)
          · exact limited_complain hle
    · exact limited_complain hle

private theorem limited_readMore {α : Type} (size : α → Nat) {width : List α → Nat}
    {reader other : Text → Except ReadError (List α × Text)} {closing : CodePoint} {first : α}
    (hwidth : ∀ rest, width (first :: rest) = max (size first) (width rest)) (hnil : width [] = 0)
    (hfirst : size first ≤ levels) (hle : levels ≤ more)
    (h : ∀ text, Limited (width ·.1) levels (reader text) (other text)) (text : Text) :
    Limited (width ·.1) levels (readMore levels closing reader first text)
      (readMore more closing other first text) := by
  rw [readMore, readMore]
  cases skipSpace text with
  | nil => exact limited_complain hle
  | cons c rest =>
    dsimp only
    split
    · exact .ok (by simpa [hwidth, hnil] using hfirst)
    split
    · refine (h (skipSpace rest)).map fun found => ?_
      rw [hwidth, Nat.max_le, and_iff_right hfirst]
    · exact limited_complain hle

private theorem size_le_of_readMore {α : Type} (size : α → Nat) {width : List α → Nat}
    {reader : Text → Except ReadError (List α × Text)} {closing : CodePoint} {first : α}
    (hwidth : ∀ rest, width (first :: rest) = max (size first) (width rest)) {text : Text}
    {found : List α × Text} (h : readMore levels closing reader first text = .ok found) :
    size first ≤ width found.1 := by
  rw [readMore] at h
  cases hskip : skipSpace text with
  | nil => rw [hskip] at h; cases h
  | cons c rest =>
    rw [hskip] at h
    dsimp only at h
    split at h
    · cases h
      exact Nat.le_trans (Nat.le_max_left ..) (Nat.le_of_eq (hwidth _).symm)
    split at h
    · cases hmore : reader (skipSpace rest) with
      | error cause => rw [hmore] at h; cases h
      | ok others =>
        rw [hmore] at h
        cases h
        exact Nat.le_trans (Nat.le_max_left ..) (Nat.le_of_eq (hwidth _).symm)
    · cases h

mutual

private theorem limited_readValue :
    ∀ (fuel : Nat) {levels more : Nat} (text : Text), levels ≤ more →
    Limited (Json.levels ·.1) levels (readValue fuel levels text) (readValue fuel more text)
  | 0, _, _, _, _ => .malformed
  | _ + 1, _, _, [], _ => .malformed
  | fuel + 1, levels, more, c :: rest, hle => by
    rw [readValue, readValue]
    split
    · cases string? rest with
      | none => exact limited_complain hle
      | some found => exact .ok (Nat.zero_le _)
    split
    · refine limited_deeper (fun _ => rfl) hle ?_
      intro levels more hle
      cases skipSpace rest with
      | nil => exact .malformed
      | cons d after =>
        dsimp only
        split
        · exact .ok (Nat.zero_le _)
        · exact limited_readItems fuel (d :: after) hle
    split
    · refine limited_deeper (fun _ => rfl) hle ?_
      intro levels more hle
      cases skipSpace rest with
      | nil => exact limited_complain hle
      | cons d after =>
        dsimp only
        split
        · exact .ok (Nat.zero_le _)
        · exact limited_readMembers fuel (d :: after) hle
    · exact limited_readScalar hle _

private theorem limited_readItems :
    ∀ (fuel : Nat) {levels more : Nat} (text : Text), levels ≤ more →
    Limited (levelsOfItems ·.1) levels (readItems fuel levels text) (readItems fuel more text)
  | 0, _, _, _, _ => .malformed
  | fuel + 1, levels, more, text, hle => by
    rw [readItems, readItems]
    refine (limited_readValue fuel text hle).bind ?_ ?_
    · rintro ⟨item, rest⟩ hitem
      exact limited_readMore Json.levels (fun _ => rfl) rfl hitem hle
        (fun text => limited_readItems fuel text hle) rest
    · rintro ⟨item, rest⟩ items hitems
      exact size_le_of_readMore Json.levels (fun _ => rfl) hitems

private theorem limited_readMembers :
    ∀ (fuel : Nat) {levels more : Nat} (text : Text), levels ≤ more →
    Limited (levelsOfMembers ·.1) levels (readMembers fuel levels text) (readMembers fuel more text)
  | 0, _, _, _, _ => .malformed
  | fuel + 1, levels, more, text, hle => by
    rw [readMembers, readMembers]
    refine (limited_readName hle text).bind ?_ fun _ _ _ => Nat.zero_le _
    rintro ⟨name, rest⟩ -
    refine (limited_readValue fuel rest hle).bind ?_ ?_
    · rintro ⟨value, rest⟩ hvalue
      exact limited_readMore (fun member : Text × Json => member.2.levels) (fun _ => rfl) rfl hvalue
        hle (fun text => limited_readMembers fuel text hle) rest
    · rintro ⟨value, rest⟩ members hmembers
      exact size_le_of_readMore (fun member : Text × Json => member.2.levels) (fun _ => rfl)
        hmembers

end

end Limited

/-- How many brackets in a text open an array or an object. -/
def openings (text : Text) : Nat :=
  text.countP fun c : CodePoint => c = '[' || c = '\x7b'

/-- What comes out of reading at the front of a text: something with the text that follows it, or
no more levels, which only a text with many brackets can use up. -/
inductive Descends {α : Type} (levels : Nat) (text : Text) :
    Except ReadError (α × Text) → Prop
  | ok {a : α} {rest : Text} (h : rest <:+ text) : Descends levels text (.ok (a, rest))
  | malformed : Descends levels text (.error .malformed)
  | tooDeep (h : levels < openings text + complaintLevels) :
    Descends levels text (.error .tooDeep)

namespace Descends

variable {α β : Type} {levels : Nat} {text other : Text} {outcome : Except ReadError (α × Text)}

private theorem mono (h : Descends levels text outcome) (hsuffix : text <:+ other) :
    Descends levels other outcome := by
  cases h with
  | ok h => exact .ok (h.trans hsuffix)
  | malformed => exact .malformed
  | tooDeep h =>
    have hle : openings text ≤ openings other := hsuffix.sublist.countP_le
    exact .tooDeep (by omega)

private theorem bind {next : α × Text → Except ReadError (β × Text)}
    (h : Descends levels text outcome)
    (hnext : ∀ a rest, Descends levels rest (next (a, rest))) :
    Descends levels text (outcome >>= next) := by
  cases h with
  | ok h => exact (hnext _ _).mono h
  | malformed => exact .malformed
  | tooDeep h => exact .tooDeep h

private theorem map {hold : α → β} (h : Descends levels text outcome) :
    Descends levels text (outcome.map fun (a, rest) => (hold a, rest)) := by
  cases h with
  | ok h => exact .ok h
  | malformed => exact .malformed
  | tooDeep h => exact .tooDeep h

end Descends

section Descends

variable {levels : Nat}

private theorem descends_complain {α : Type} (text : Text) :
    Descends levels text (.error (complain levels) : Except ReadError (α × Text)) := by
  rw [complain]
  split
  · next h => exact .tooDeep (Nat.lt_of_lt_of_le h (Nat.le_add_left ..))
  · exact .malformed

private theorem skipSpace_suffix (text : Text) : skipSpace text <:+ text :=
  List.dropWhile_suffix _

private theorem suffix_of_pieces? {text rest : Text} {pieces : List Piece}
    (h : pieces? text = some (pieces, rest)) : rest <:+ text := by
  fun_induction pieces? text generalizing pieces with
  | case1 | case3 | case5 | case7 => cases h
  | case2 =>
    cases h
    exact List.suffix_cons ..
  | case4 a b c d after _ ih =>
    simp only [Option.bind_eq_bind, Option.bind_eq_some_iff] at h
    obtain ⟨n, -, ⟨more, last⟩, hmore, h⟩ := h
    cases h
    exact (ih hmore).trans (List.suffix_append [_, _, a, b, c, d] after)
  | case6 kind after _ _ ih =>
    simp only [Option.bind_eq_bind, Option.bind_eq_some_iff] at h
    obtain ⟨c, -, ⟨more, last⟩, hmore, h⟩ := h
    cases h
    exact (ih hmore).trans (List.suffix_append [_, kind] after)
  | case8 c after _ _ _ ih =>
    obtain ⟨⟨more, last⟩, hmore, h⟩ := Option.bind_eq_some_iff.mp h
    cases h
    exact (ih hmore).trans (List.suffix_cons ..)

private theorem suffix_of_string? {text value rest : Text}
    (h : string? text = some (value, rest)) : rest <:+ text := by
  obtain ⟨⟨pieces, after⟩, hpieces, heq⟩ := Option.map_eq_some_iff.mp h
  cases heq
  exact suffix_of_pieces? hpieces

private theorem suffix_of_number? {text rest : Text} {value : Json}
    (h : number? text = some (value, rest)) : rest <:+ text ∧ value.levels ≤ 1 := by
  simp only [number?, Option.bind_eq_bind, Option.bind_eq_some_iff] at h
  obtain ⟨⟨whole, fraction, exponent⟩, -, h⟩ := h
  split at h
  · obtain ⟨value, hvalue, h⟩ := Option.bind_eq_some_iff.mp h
    obtain ⟨n, -, rfl⟩ := Option.map_eq_some_iff.mp hvalue
    cases h
    exact ⟨List.drop_suffix .., Nat.zero_le _⟩
  · cases h
    exact ⟨List.drop_suffix .., by rw [levels]; split <;> omega⟩

private theorem suffix_of_scalar? {text rest : Text} {value : Json}
    (h : scalar? text = some (value, rest)) : rest <:+ text ∧ value.levels ≤ 1 := by
  unfold scalar? at h
  split at h
  · next word value hfind =>
    cases h
    have hwords : ∀ word ∈ words, word.2.levels ≤ 1 := by decide +kernel
    exact ⟨List.drop_suffix .., hwords _ (List.mem_of_find?_eq_some hfind)⟩
  · exact suffix_of_number? h

private theorem descends_readScalar (text : Text) :
    Descends levels text (readScalar levels text) := by
  rw [readScalar]
  cases hscalar : scalar? text with
  | none => exact .malformed
  | some found =>
    obtain ⟨hsuffix, hvalue⟩ := suffix_of_scalar? hscalar
    dsimp only
    split
    · exact .ok hsuffix
    · exact .tooDeep (by rw [complaintLevels]; omega)

private theorem descends_readName (text : Text) :
    Descends levels text (readName levels text) := by
  cases text with
  | nil => exact descends_complain _
  | cons c rest =>
    rw [readName]
    split
    · cases hstring : string? rest with
      | none => exact descends_complain _
      | some found =>
        have hsuffix := (suffix_of_string? hstring).trans (List.suffix_cons c rest)
        have hskip := (skipSpace_suffix found.2).trans hsuffix
        dsimp only
        cases hafter : skipSpace found.2 with
        | nil => exact descends_complain _
        | cons d after =>
          rw [hafter] at hskip
          dsimp only
          split
          · exact .ok ((skipSpace_suffix after).trans ((List.suffix_cons d after).trans hskip))
          · exact descends_complain _
    · exact descends_complain _

private theorem descends_readMore {α : Type} {closing : CodePoint} {first : α}
    {reader : Text → Except ReadError (List α × Text)}
    (h : ∀ text, Descends levels text (reader text)) (text : Text) :
    Descends levels text (readMore levels closing reader first text) := by
  have hskip := skipSpace_suffix text
  rw [readMore]
  cases hafter : skipSpace text with
  | nil => exact descends_complain _
  | cons c rest =>
    rw [hafter] at hskip
    have hrest := (List.suffix_cons c rest).trans hskip
    dsimp only
    split
    · exact .ok hrest
    split
    · exact ((h _).mono ((skipSpace_suffix rest).trans hrest)).map
    · exact descends_complain _

private theorem descends_deeper {α : Type} {hold : α → Json} {c : CodePoint} {rest : Text}
    {inside : Nat → Except ReadError (α × Text)} (hc : c = '[' ∨ c = '\x7b')
    (h : ∀ levels, Descends levels rest (inside levels)) :
    Descends levels (c :: rest) (deeper levels hold inside) := by
  have hopenings : openings (c :: rest) = openings rest + 1 := by
    rcases hc with rfl | rfl <;> simp [openings]
  cases levels with
  | zero => exact .tooDeep (by omega)
  | succ levels =>
    have hinside := h levels
    rw [deeper]
    refine Descends.map ?_
    generalize inside levels = outcome at hinside
    cases hinside with
    | ok h => exact .ok (h.trans (List.suffix_cons c rest))
    | malformed => exact .malformed
    | tooDeep h => exact .tooDeep (by omega)

mutual

private theorem descends_readValue : ∀ (fuel levels : Nat) (text : Text),
    Descends levels text (readValue fuel levels text)
  | 0, _, _ => .malformed
  | _ + 1, _, [] => .malformed
  | fuel + 1, levels, c :: rest => by
    have hskip := skipSpace_suffix rest
    rw [readValue]
    split
    · cases hstring : string? rest with
      | none => exact descends_complain _
      | some found => exact .ok ((suffix_of_string? hstring).trans (List.suffix_cons ..))
    split
    · next hc =>
      refine descends_deeper (.inl hc) fun levels => ?_
      cases hafter : skipSpace rest with
      | nil => exact .malformed
      | cons d after =>
        rw [hafter] at hskip
        dsimp only
        split
        · exact .ok ((List.suffix_cons d after).trans hskip)
        · exact (descends_readItems fuel levels (d :: after)).mono hskip
    split
    · next hc =>
      refine descends_deeper (.inr hc) fun levels => ?_
      cases hafter : skipSpace rest with
      | nil => exact descends_complain _
      | cons d after =>
        rw [hafter] at hskip
        dsimp only
        split
        · exact .ok ((List.suffix_cons d after).trans hskip)
        · exact (descends_readMembers fuel levels (d :: after)).mono hskip
    · exact descends_readScalar _

private theorem descends_readItems : ∀ (fuel levels : Nat) (text : Text),
    Descends levels text (readItems fuel levels text)
  | 0, _, _ => .malformed
  | fuel + 1, levels, text => by
    rw [readItems]
    exact (descends_readValue fuel levels text).bind fun item rest =>
      descends_readMore (descends_readItems fuel levels) rest

private theorem descends_readMembers : ∀ (fuel levels : Nat) (text : Text),
    Descends levels text (readMembers fuel levels text)
  | 0, _, _ => .malformed
  | fuel + 1, levels, text => by
    rw [readMembers]
    refine (descends_readName text).bind fun name rest => ?_
    exact (descends_readValue fuel levels rest).bind fun value rest =>
      descends_readMore (descends_readMembers fuel levels) rest

end

end Descends

/-- A text with no more opening brackets than the limit allows is read or refused. -/
private theorem lt_openings_of_read_eq_tooDeep {limit : Nat} {text : Text}
    (h : read limit text = .error .tooDeep) : limit < openings text := by
  have hvalue := (descends_readValue (2 * text.length + 2) (limit + complaintLevels)
    (skipSpace text)).mono (skipSpace_suffix text)
  rw [read] at h
  generalize readValue _ _ _ = outcome at h hvalue
  cases hvalue with
  | @ok value rest =>
    change (if (skipSpace rest).isEmpty then _ else _) = _ at h
    split at h <;> cases h
  | malformed => cases h
  | tooDeep hlt => omega

private theorem limited_read {limit more : Nat} (hle : limit ≤ more) (text : Text) :
    Limited levels (limit + complaintLevels) (read limit text) (read more text) := by
  refine (limited_readValue _ (skipSpace text) (Nat.add_le_add_right hle _)).bind ?_ ?_
  · rintro ⟨value, rest⟩ hvalue
    dsimp only
    split
    · exact .ok hvalue
    · exact .malformed
  · rintro ⟨value, rest⟩ other h
    dsimp only at h
    split at h <;> cases h
    exact Nat.le_refl _

/-- Without a limit of its own a text is read with as many levels as it could need. -/
private theorem read_length_ne_tooDeep (text : Text) : read text.length text ≠ .error .tooDeep := by
  intro h
  have hopenings : openings text ≤ text.length := List.countP_le_length
  have hlt := lt_openings_of_read_eq_tooDeep h
  omega

/-- What a text is read as with a limit: the value that it stands for, if that does not take more
levels than there are, and nothing if it stands for none. -/
private theorem limited_read_length (limit : Nat) (text : Text) :
    Limited levels (limit + complaintLevels) (read limit text) (read text.length text) := by
  rcases Nat.le_total limit text.length with hle | hle
  · exact limited_read hle text
  · have h := limited_read hle text
    have hlength := read_length_ne_tooDeep text
    generalize read text.length text = outcome at h hlength
    generalize read limit text = other at h ⊢
    cases h with
    | ok hlevels => exact .ok (by omega)
    | malformed => exact .malformed
    | tooDeep => exact absurd rfl hlength

theorem read_eq_ok_iff {limit : Nat} {text : Text} {value : Json} : read limit text = .ok value ↔
    read? text = some value ∧ value.levels ≤ limit + complaintLevels := by
  have h := limited_read_length limit text
  rw [read?]
  generalize read text.length text = outcome at h ⊢
  generalize read limit text = other at h ⊢
  cases h with
  | ok hlevels =>
    simp only [Except.toOption, Except.ok.injEq, Option.some.injEq]
    constructor
    · rintro rfl
      exact ⟨rfl, hlevels⟩
    · exact And.left
  | malformed => simp [Except.toOption]
  | tooDeep hdeep =>
    constructor
    · nofun
    · rintro ⟨hvalue, hlevels⟩
      cases outcome with
      | error cause => cases hvalue
      | ok other =>
        cases hvalue
        exact absurd hlevels (Nat.not_le_of_lt (hdeep _ rfl))

private theorem read?_eq_none_of_read_eq_malformed {limit : Nat} {text : Text}
    (h : read limit text = .error .malformed) : read? text = none := by
  have hlimited := limited_read_length limit text
  rw [h] at hlimited
  rw [read?]
  generalize read text.length text = outcome at hlimited ⊢
  cases hlimited
  rfl

private theorem readValue_replicate_append (rest : Text) : ∀ (levels n fuel : Nat), levels < n →
    2 * n ≤ fuel →
    readValue fuel levels (List.replicate n (CodePoint.ofChar '[') ++ rest) = .error .tooDeep
  | _, 0, _, hn, _ => absurd hn (Nat.not_lt_zero _)
  | _, n + 1, 0, _, hfuel | _, n + 1, 1, _, hfuel => absurd hfuel (by omega)
  | 0, n + 1, fuel + 2, _, _ => rfl
  | levels + 1, 1, _, hn, _ => absurd hn (by omega)
  | levels + 1, n + 2, fuel + 2, hn, hfuel => by
    have hinside := readValue_replicate_append rest levels (n + 1) fuel (by omega) (by omega)
    rw [List.replicate_succ, List.cons_append] at hinside
    rw [List.replicate_succ, List.replicate_succ, List.cons_append, List.cons_append, readValue,
      if_neg (by decide), if_pos rfl, deeper, skipSpace, List.dropWhile_cons_of_neg (by decide)]
    dsimp only
    rw [if_neg (by decide), readItems, hinside]
    rfl

/-- Brackets that open more levels than the limit allows are given up on, whatever follows. -/
private theorem read_replicate_append {limit n : Nat} (hn : limit + complaintLevels < n)
    (rest : Text) :
    read limit (List.replicate n (CodePoint.ofChar '[') ++ rest) = .error .tooDeep := by
  have hskip : skipSpace (List.replicate n (CodePoint.ofChar '[') ++ rest) =
      List.replicate n (CodePoint.ofChar '[') ++ rest := by
    obtain ⟨n, rfl⟩ := Nat.exists_eq_succ_of_ne_zero (Nat.ne_zero_of_lt hn)
    rw [List.replicate_succ, List.cons_append]
    exact List.dropWhile_cons_of_neg (by decide)
  have hfuel : 2 * n ≤ 2 * (List.replicate n (CodePoint.ofChar '[') ++ rest).length + 2 := by
    rw [List.length_append, List.length_replicate]
    omega
  rw [read, hskip, readValue_replicate_append rest _ _ _ hn hfuel]
  rfl

theorem ofBytes_eq_ok_iff {limit : Nat} {bytes : Bytes} {value : Json} :
    ofBytes limit bytes = .ok value ↔
      ofBytes? bytes = some value ∧ value.levels ≤ limit + complaintLevels := by
  unfold ofBytes ofBytes?
  dsimp only
  cases (Encoding.detect bytes).1.decode? (Encoding.detect bytes).2 with
  | none => simp
  | some text => exact read_eq_ok_iff

theorem ofBytes?_eq_none_of_ofBytes_eq_malformed {limit : Nat} {bytes : Bytes}
    (h : ofBytes limit bytes = .error .malformed) : ofBytes? bytes = none := by
  unfold ofBytes at h
  unfold ofBytes?
  dsimp only at h ⊢
  cases hdecode : (Encoding.detect bytes).1.decode? (Encoding.detect bytes).2 with
  | none => rfl
  | some text =>
    rw [hdecode] at h
    exact read?_eq_none_of_read_eq_malformed h

theorem ofBytes_replicate_append {limit n : Nat} (hn : limit + complaintLevels < n) (rest : Text) :
    ofBytes limit ((List.replicate n (CodePoint.ofChar '[') ++ rest).flatMap CodePoint.utf8) =
      .error .tooDeep := by
  have hread := read_replicate_append hn rest
  rw [complaintLevels] at hn
  -- Four brackets in front tell that the bytes are to be read as UTF-8.
  have hutf8 :
      Encoding.detect ((List.replicate n (CodePoint.ofChar '[') ++ rest).flatMap CodePoint.utf8) =
        (.utf8, (List.replicate n (CodePoint.ofChar '[') ++ rest).flatMap CodePoint.utf8) := by
    obtain ⟨m, rfl⟩ := Nat.exists_eq_add_of_le' (show 4 ≤ n by omega)
    rfl
  rw [ofBytes, hutf8]
  dsimp only
  rw [Encoding.decode?, Utf8.decode?_encoded]
  exact hread

end SnippetReview.Json
