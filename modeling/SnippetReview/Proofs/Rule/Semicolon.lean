import SnippetReview.Proofs.Text.Padding
import SnippetReview.Rule.Semicolon

/-!
What the patterns for statements match. Each of them runs to the end of the line and passes over
blanks there, so that it takes all of a line with a visible end, up to a last code point that ends
like an expression.
-/

set_option autoImplicit false

namespace SnippetReview.Semicolon

open Cursor Pattern Text

theorem isWord_of_nameCharacter {c : CodePoint}
    (h : c.isAsciiAlphanumeric = true ∨ c = CodePoint.ofChar '_') : c.isWord = true := by
  rcases h with halphanumeric | rfl
  · simp [CodePoint.isWord, CodePoint.isAlphanumeric, halphanumeric]
  · exact (CodePoint.isWord_of_ascii (by decide)).trans (by decide)

theorem isWord_of_nameStart {c : CodePoint}
    (h : c.isAsciiLetter = true ∨ c = CodePoint.ofChar '_') : c.isWord = true :=
  isWord_of_nameCharacter (h.imp_left fun hletter => by
    simp [CodePoint.isAsciiAlphanumeric, hletter])

section Matches

variable {before : Option CodePoint} {matched rest : Text}

private theorem matches_append_blanks_finish {pattern : Pattern}
    (hvisible : ∀ c, (matched ++ rest).getLast? = some c → c.isBlank = false) :
    (pattern ++ blanks ++ .finish).Matches before matched rest ↔
      rest = [] ∧ pattern.Matches before matched [] := by
  constructor
  · intro h
    obtain ⟨_, edge, rfl, hlead, hedge⟩ := matches_append.mp h
    obtain ⟨rfl, hfinish⟩ := matches_finish.mp hedge
    obtain ⟨front, gap, rfl, hfront, hgap⟩ := matches_append.mp hlead
    rw [matches_blanks] at hgap
    rw [atFinish, Bool.or_eq_true, decide_eq_true_eq, decide_eq_true_eq] at hfinish
    rcases hfinish with rfl | rfl
    · rcases List.eq_nil_or_concat gap with rfl | ⟨more, c, hcons⟩
      · simpa using hfront
      · have hlast := hvisible c (by simp [hcons])
        rw [hgap c (by simp [hcons])] at hlast
        cases hlast
    · have hlast := hvisible (CodePoint.ofChar '\n') (by rw [List.getLast?_concat])
      exact absurd hlast (by decide)
  · rintro ⟨rfl, h⟩
    exact matches_append.mpr ⟨matched, [], (List.append_nil _).symm, matches_append.mpr
      ⟨matched, [], (List.append_nil _).symm, h, by simp⟩, by simp [atFinish]⟩

private theorem matches_append_expressionEnd {lead : Pattern}
    (hvisible : ∀ c, (matched ++ rest).getLast? = some c → c.isBlank = false) :
    (lead ++ expressionEnd).Matches before matched rest ↔ rest = [] ∧ ∃ front last,
      matched = front ++ [last] ∧ lead.Matches before front [last] ∧
        last.endsExpression = true := by
  constructor
  · intro h
    obtain ⟨front, tail, rfl, hfront, htail⟩ := matches_append.mp h
    have hbehind : ∀ c, (tail ++ rest).getLast? = some c → c.isBlank = false := by
      intro c hc
      refine hvisible c ?_
      rw [List.append_assoc, List.getLast?_append, hc, Option.some_or]
    obtain ⟨rfl, hend⟩ := (matches_append_blanks_finish hbehind).mp htail
    obtain ⟨last, rfl, hlast⟩ := matches_one.mp hend
    exact ⟨rfl, front, last, rfl, by simpa using hfront, hlast⟩
  · rintro ⟨rfl, front, last, rfl, hfront, hlast⟩
    refine matches_append.mpr ⟨front, [last], rfl, by simpa using hfront, ?_⟩
    refine (matches_append_blanks_finish fun c hc => hvisible c ?_).mpr
      ⟨rfl, matches_one.mpr ⟨last, rfl, hlast⟩⟩
    rw [List.append_nil, List.getLast?_concat]
    exact hc

variable (hvisible : ∀ c, (matched ++ rest).getLast? = some c → c.isBlank = false)

include hvisible

private theorem matches_assignmentStatement : assignmentStatement.Matches before matched rest ↔
    rest = [] ∧ ∃ first name gap value last,
      matched = first :: (name ++ (gap ++ CodePoint.ofChar '=' :: (value ++ [last]))) ∧
        (first.isAsciiLetter = true ∨ first = CodePoint.ofChar '_') ∧
        (∀ c ∈ name, c.isWord = true) ∧ (∀ c ∈ gap, c.isBlank = true) ∧
        (∀ c ∈ value, c.inLine = true) ∧ last.endsExpression = true := by
  rw [assignmentStatement, matches_append_expressionEnd hvisible]
  refine and_congr_right fun _ => ?_
  constructor
  · rintro ⟨_, last, rfl, h, hlast⟩
    obtain ⟨_, value, rfl, h, hvalue⟩ := matches_append.mp h
    obtain ⟨_, sign, rfl, h, hsign⟩ := matches_append.mp h
    obtain ⟨_, gap, rfl, h, hgap⟩ := matches_append.mp h
    obtain ⟨_, name, rfl, h, hname⟩ := matches_append.mp h
    obtain ⟨first, rfl, hfirst⟩ := matches_one.mp h
    obtain rfl := matches_char.mp hsign
    exact ⟨first, name, gap, value, last, by simp, by simpa using hfirst, matches_many.mp hname,
      matches_blanks.mp hgap, matches_many.mp hvalue, hlast⟩
  · rintro ⟨first, name, gap, value, last, rfl, hfirst, hname, hgap, hvalue, hlast⟩
    refine ⟨[first] ++ name ++ gap ++ [CodePoint.ofChar '='] ++ value, last, by simp, ?_, hlast⟩
    exact matches_append.mpr ⟨_, _, rfl, matches_append.mpr ⟨_, _, rfl, matches_append.mpr
      ⟨_, _, rfl, matches_append.mpr ⟨_, _, rfl,
        matches_one.mpr ⟨first, rfl, by simpa using hfirst⟩, matches_many.mpr hname⟩,
        matches_blanks.mpr hgap⟩, matches_char.mpr rfl⟩, matches_many.mpr hvalue⟩

theorem matches_declaration {types : List Text} : (declaration types).Matches before matched rest ↔
    rest = [] ∧ ∃ type gap value last, matched = type ++ (gap ++ (value ++ [last])) ∧
      type ∈ types ∧ gap ≠ [] ∧ (∀ c ∈ gap, c.isBlank = true) ∧ (∀ c ∈ value, c.inLine = true) ∧
        last.endsExpression = true := by
  rw [declaration, matches_append_expressionEnd hvisible]
  refine and_congr_right fun _ => ?_
  constructor
  · rintro ⟨_, last, rfl, h, hlast⟩
    obtain ⟨_, value, rfl, h, hvalue⟩ := matches_append.mp h
    obtain ⟨type, gap, rfl, htype, hgap⟩ := matches_append.mp h
    obtain ⟨hne, hblank⟩ := matches_gap.mp hgap
    exact ⟨type, gap, value, last, by simp, matches_oneOf.mp htype, hne, hblank,
      matches_many.mp hvalue, hlast⟩
  · rintro ⟨type, gap, value, last, rfl, htype, hne, hblank, hvalue, hlast⟩
    refine ⟨type ++ gap ++ value, last, by simp, ?_, hlast⟩
    exact matches_append.mpr ⟨_, _, rfl, matches_append.mpr ⟨_, _, rfl, matches_oneOf.mpr htype,
      matches_gap.mpr ⟨hne, hblank⟩⟩, matches_many.mpr hvalue⟩

private theorem matches_callStatement : callStatement.Matches before matched rest ↔
    rest = [] ∧ ∃ name gap arguments gap' last,
      matched = name ++ (gap ++ CodePoint.ofChar '(' ::
        (arguments ++ CodePoint.ofChar ')' :: (gap' ++ [last]))) ∧
      IsWord name ∧ (∀ c ∈ gap, c.isBlank = true) ∧ CodePoint.ofChar ')' ∉ arguments ∧
        (∀ c ∈ gap', c.isBlank = true) ∧ (last.isAsciiAlphanumeric = true ∨
          last = CodePoint.ofChar '_' ∨ last = CodePoint.ofChar ')') := by
  rw [callStatement, matches_append_blanks_finish hvisible]
  refine and_congr_right fun _ => ?_
  constructor
  · intro h
    obtain ⟨_, end', rfl, h, hend⟩ := matches_append.mp h
    obtain ⟨_, gap', rfl, h, hgap'⟩ := matches_append.mp h
    obtain ⟨_, closing, rfl, h, hclosing⟩ := matches_append.mp h
    obtain ⟨_, arguments, rfl, h, harguments⟩ := matches_append.mp h
    obtain ⟨_, opening, rfl, h, hopening⟩ := matches_append.mp h
    obtain ⟨name, gap, rfl, hname, hgap⟩ := matches_append.mp h
    obtain ⟨last, rfl, hlast⟩ := matches_one.mp hend
    obtain rfl := matches_char.mp hclosing
    obtain rfl := matches_char.mp hopening
    exact ⟨name, gap, arguments, gap', last, by simp, matches_atLeastOne.mp hname,
      matches_blanks.mp hgap, matches_many_ne_iff.mp harguments, matches_blanks.mp hgap',
      by simpa [or_assoc] using hlast⟩
  · rintro ⟨name, gap, arguments, gap', last, rfl, hname, hgap, harguments, hgap', hlast⟩
    have hsplit : name ++ (gap ++ CodePoint.ofChar '(' ::
        (arguments ++ CodePoint.ofChar ')' :: (gap' ++ [last]))) =
        name ++ gap ++ [CodePoint.ofChar '('] ++ arguments ++ [CodePoint.ofChar ')'] ++ gap' ++
          [last] := by
      simp
    rw [hsplit]
    exact matches_append.mpr ⟨_, _, rfl, matches_append.mpr ⟨_, _, rfl, matches_append.mpr
      ⟨_, _, rfl, matches_append.mpr ⟨_, _, rfl, matches_append.mpr ⟨_, _, rfl, matches_append.mpr
        ⟨_, _, rfl, matches_atLeastOne.mpr hname, matches_blanks.mpr hgap⟩, matches_char.mpr rfl⟩,
        matches_many_ne_iff.mpr harguments⟩, matches_char.mpr rfl⟩, matches_blanks.mpr hgap'⟩,
      matches_one.mpr ⟨last, rfl, by simpa [or_assoc] using hlast⟩⟩

private theorem matches_namedCall {names : List Text} :
    (namedCall names).Matches before matched rest ↔
    rest = [] ∧ ∃ name gap arguments, matched = name ++ (gap ++ CodePoint.ofChar '(' ::
      (arguments ++ [CodePoint.ofChar ')'])) ∧
        name ∈ names ∧ (∀ c ∈ gap, c.isBlank = true) ∧ ∀ c ∈ arguments, c.inLine = true := by
  rw [namedCall, matches_append_blanks_finish hvisible]
  refine and_congr_right fun _ => ?_
  constructor
  · intro h
    obtain ⟨_, closing, rfl, h, hclosing⟩ := matches_append.mp h
    obtain ⟨_, arguments, rfl, h, harguments⟩ := matches_append.mp h
    obtain ⟨_, opening, rfl, h, hopening⟩ := matches_append.mp h
    obtain ⟨name, gap, rfl, hname, hgap⟩ := matches_append.mp h
    obtain rfl := matches_char.mp hclosing
    obtain rfl := matches_char.mp hopening
    exact ⟨name, gap, arguments, by simp, matches_oneOf.mp hname, matches_blanks.mp hgap,
      matches_many.mp harguments⟩
  · rintro ⟨name, gap, arguments, rfl, hname, hgap, harguments⟩
    have hsplit : name ++ (gap ++ CodePoint.ofChar '(' :: (arguments ++ [CodePoint.ofChar ')'])) =
        name ++ gap ++ [CodePoint.ofChar '('] ++ arguments ++ [CodePoint.ofChar ')'] := by
      simp
    rw [hsplit]
    exact matches_append.mpr ⟨_, _, rfl, matches_append.mpr ⟨_, _, rfl, matches_append.mpr
      ⟨_, _, rfl, matches_append.mpr ⟨_, _, rfl, matches_oneOf.mpr hname, matches_blanks.mpr hgap⟩,
        matches_char.mpr rfl⟩, matches_many.mpr harguments⟩, matches_char.mpr rfl⟩

end Matches

section Starts

variable {text : Text} (hvisible : ∀ c, text.getLast? = some c → c.isBlank = false)

/-- What can only match a whole text begins it exactly if it matches it. -/
private theorem matchesStart_iff_of_whole {pattern : Pattern} {p : Text → Prop}
    (h : ∀ {matched rest}, matched ++ rest = text →
      (pattern.Matches none matched rest ↔ rest = [] ∧ p matched)) :
    pattern.matchesStart text = true ↔ p text := by
  rw [matchesStart_iff]
  constructor
  · rintro ⟨matched, rest, rfl, hmatch⟩
    obtain ⟨rfl, hp⟩ := (h rfl).mp hmatch
    rwa [List.append_nil]
  · intro hp
    exact ⟨text, [], (List.append_nil text).symm, (h (List.append_nil text)).mpr ⟨rfl, hp⟩⟩

include hvisible

theorem matchesStart_assignmentStatement_iff : assignmentStatement.matchesStart text = true ↔
    ∃ first name gap value last,
      text = first :: (name ++ (gap ++ CodePoint.ofChar '=' :: (value ++ [last]))) ∧
        (first.isAsciiLetter = true ∨ first = CodePoint.ofChar '_') ∧
        (∀ c ∈ name, c.isWord = true) ∧ (∀ c ∈ gap, c.isBlank = true) ∧
        (∀ c ∈ value, c.inLine = true) ∧ last.endsExpression = true :=
  matchesStart_iff_of_whole fun h => matches_assignmentStatement (h ▸ hvisible)

theorem matchesStart_callStatement_iff : callStatement.matchesStart text = true ↔
    ∃ name gap arguments gap' last, text = name ++ (gap ++ CodePoint.ofChar '(' ::
        (arguments ++ CodePoint.ofChar ')' :: (gap' ++ [last]))) ∧
      IsWord name ∧ (∀ c ∈ gap, c.isBlank = true) ∧ CodePoint.ofChar ')' ∉ arguments ∧
        (∀ c ∈ gap', c.isBlank = true) ∧ (last.isAsciiAlphanumeric = true ∨
          last = CodePoint.ofChar '_' ∨ last = CodePoint.ofChar ')') :=
  matchesStart_iff_of_whole fun h => matches_callStatement (h ▸ hvisible)

theorem matchesStart_namedCall_iff {names : List Text} :
    (namedCall names).matchesStart text = true ↔
      ∃ name gap arguments, text = name ++ (gap ++ CodePoint.ofChar '(' ::
        (arguments ++ [CodePoint.ofChar ')'])) ∧
          name ∈ names ∧ (∀ c ∈ gap, c.isBlank = true) ∧ ∀ c ∈ arguments, c.inLine = true :=
  matchesStart_iff_of_whole fun h => matches_namedCall (h ▸ hvisible)

theorem matchesStart_declaration_iff {types : List Text} :
    (declaration types).matchesStart text = true ↔
      ∃ type gap value last, text = type ++ (gap ++ (value ++ [last])) ∧
        type ∈ types ∧ gap ≠ [] ∧ (∀ c ∈ gap, c.isBlank = true) ∧ (∀ c ∈ value, c.inLine = true) ∧
          last.endsExpression = true :=
  matchesStart_iff_of_whole fun h => matches_declaration (h ▸ hvisible)

end Starts

/-- A text begins with a word character and ends like an expression. -/
structure IsSpanned (text : Text) : Prop where
  head : text.head?.any CodePoint.isWord = true
  last : text.getLast?.any CodePoint.endsExpression = true

namespace IsSpanned

variable {text : Text} {words : List Text}

theorem isEmpty_eq_false (h : IsSpanned text) : text.isEmpty = false := by
  cases text with
  | nil => cases h.head
  | cons => rfl

theorem startsWithAny_eq_false (h : IsSpanned text)
    (hwords : ∀ word ∈ words, word ≠ [] ∧ word.head?.any CodePoint.isWord = false) :
    text.startsWithAny words = false := by
  rw [startsWithAny, List.any_eq_false]
  intro word hword hstart
  obtain ⟨hne, hhead⟩ := hwords word hword
  obtain ⟨rest, rfl⟩ := List.isPrefixOf_iff_prefix.mp hstart
  have hfirst := h.head
  rw [List.head?_append_of_ne_nil _ hne, hhead] at hfirst
  cases hfirst

theorem endsWithAny_eq_false (h : IsSpanned text)
    (hwords : ∀ word ∈ words, word ≠ [] ∧ word.getLast?.any CodePoint.endsExpression = false) :
    text.endsWithAny words = false := by
  rw [endsWithAny, List.any_eq_false]
  intro word hword hend
  obtain ⟨hne, hlast⟩ := hwords word hword
  obtain ⟨front, rfl⟩ := List.isSuffixOf_iff_suffix.mp hend
  have hfinal := h.last
  rw [List.getLast?_append_of_ne_nil _ hne, hlast] at hfinal
  cases hfinal

theorem of_append {lead middle : Text} {last : CodePoint}
    (hlead : lead.head?.any CodePoint.isWord = true) (hlast : last.endsExpression = true) :
    IsSpanned (lead ++ (middle ++ [last])) := by
  constructor
  · cases lead with
    | nil => cases hlead
    | cons c lead => exact hlead
  · rw [← List.append_assoc, List.getLast?_concat]
    exact hlast

variable (hvisible : ∀ c, text.getLast? = some c → c.isBlank = false)

include hvisible

theorem of_assignmentStatement (h : assignmentStatement.matchesStart text = true) :
    IsSpanned text := by
  obtain ⟨first, name, gap, value, last, rfl, hfirst, -, -, -, hlast⟩ :=
    (matchesStart_assignmentStatement_iff hvisible).mp h
  have hsplit : first :: (name ++ (gap ++ CodePoint.ofChar '=' :: (value ++ [last]))) =
      [first] ++ ((name ++ gap ++ CodePoint.ofChar '=' :: value) ++ [last]) := by
    simp
  rw [hsplit]
  exact of_append (isWord_of_nameStart hfirst) hlast

theorem of_callStatement (h : callStatement.matchesStart text = true) : IsSpanned text := by
  obtain ⟨name, gap, arguments, gap', last, rfl, hname, -, -, -, hlast⟩ :=
    (matchesStart_callStatement_iff hvisible).mp h
  have hend : last.endsExpression = true := by
    rw [CodePoint.endsExpression]
    rcases hlast with halphanumeric | rfl | rfl
    · simp [halphanumeric]
    · decide
    · decide
  have hsplit : name ++ (gap ++ CodePoint.ofChar '(' ::
      (arguments ++ CodePoint.ofChar ')' :: (gap' ++ [last]))) =
        name ++ ((gap ++ CodePoint.ofChar '(' :: (arguments ++ CodePoint.ofChar ')' :: gap')) ++
          [last]) := by
    simp
  rw [hsplit]
  exact of_append hname.any_head hend

theorem of_namedCall {names : List Text}
    (hnames : ∀ name ∈ names, name.head?.any CodePoint.isWord = true)
    (h : (namedCall names).matchesStart text = true) : IsSpanned text := by
  obtain ⟨name, gap, arguments, rfl, hname, -, -⟩ := (matchesStart_namedCall_iff hvisible).mp h
  have hsplit : name ++ (gap ++ CodePoint.ofChar '(' :: (arguments ++ [CodePoint.ofChar ')'])) =
      name ++ ((gap ++ CodePoint.ofChar '(' :: arguments) ++ [CodePoint.ofChar ')']) := by
    simp
  rw [hsplit]
  exact of_append (hnames name hname) (by decide)

theorem of_declaration {types : List Text} (htypes : ∀ type ∈ types, IsWord type)
    (h : (declaration types).matchesStart text = true) : IsSpanned text := by
  obtain ⟨type, gap, value, last, rfl, htype, -, -, -, hlast⟩ :=
    (matchesStart_declaration_iff hvisible).mp h
  rw [← List.append_assoc gap]
  exact of_append (htypes type htype).any_head hlast

end IsSpanned

end SnippetReview.Semicolon
