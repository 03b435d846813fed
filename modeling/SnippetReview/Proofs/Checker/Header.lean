import SnippetReview.Proofs.Checker.MainReturns
import SnippetReview.Proofs.Rule.Assignment

/-!
What the rule about conditions in parentheses looks at. It reports an assignment behind the opening
parenthesis of a header, before anything is closed. It does not look for the clauses of a `for`, so
that it reports the start of a counting loop, and it names the leftmost keyword of the line, which
need not be that of the header.
-/

set_option autoImplicit false

namespace SnippetReview

section Inside

variable {bracket : Bracket} {left : Text} {c : CodePoint}

private theorem Bracket.inside_cons_of_ne (hopening : c ≠ bracket.opening)
    (hclosing : c ≠ bracket.closing)
    (depth : Nat) (rest : Text) :
    bracket.inside depth (c :: rest) = c :: bracket.inside depth rest := by
  rw [inside.eq_def]
  dsimp only
  rw [if_neg hopening, if_neg hclosing]

private theorem Bracket.inside_append (hleft : bracket.closing ∉ left) (depth : Nat) (rest : Text) :
    bracket.inside depth (left ++ rest) =
      left ++ bracket.inside (depth + left.count bracket.opening) rest := by
  induction left generalizing depth with
  | nil => rfl
  | cons c left ih =>
    rw [List.mem_cons, not_or] at hleft
    have hclosing : c ≠ bracket.closing := fun hc => hleft.1 hc.symm
    by_cases hopening : c = bracket.opening
    · rw [List.cons_append, inside.eq_def]
      dsimp only
      rw [if_pos hopening, ih hleft.2, hopening, List.count_cons_self, List.cons_append]
      congr 3
      omega
    · rw [List.cons_append, inside_cons_of_ne hopening hclosing, ih hleft.2,
        List.count_cons_of_ne hopening, List.cons_append]

end Inside

namespace Condition

open Cursor Pattern Text

/-- A header opens: behind the front stands a keyword that no word character precedes, then any
blanks and an opening parenthesis, and the rest follows. -/
structure Opens (line front keyword rest : Text) : Prop where
  split : ∃ gap, line = front ++ (keyword ++ (gap ++ CodePoint.ofChar '(' :: rest)) ∧
    ∀ c ∈ gap, c.isBlank = true
  mem : keyword ∈ bracketedKeywords
  left : front.getLast?.any CodePoint.isWord = false

/-- There is an assignment before which no parenthesis is closed, and behind which one is. -/
def HasOpenAssignment (rest : Text) : Prop :=
  ∃ left right, rest.Assigns left right ∧ CodePoint.ofChar ')' ∉ left ∧ CodePoint.ofChar ')' ∈ right

variable {line front keyword rest : Text}

private theorem matches_header {before : Option CodePoint} {matched rest : Text} :
    (.boundary ++ Pattern.oneOf bracketedKeywords ++ Pattern.blanks ++ Pattern.char '(').Matches
      before matched rest ↔ ∃ keyword gap, matched = keyword ++ gap ++ [CodePoint.ofChar '('] ∧
        keyword ∈ bracketedKeywords ∧ before.any CodePoint.isWord = false ∧
          ∀ c ∈ gap, c.isBlank = true := by
  constructor
  · intro h
    obtain ⟨_, opening, rfl, hlead, hopening⟩ := matches_append.mp h
    obtain ⟨keyword, gap, rfl, hkeyword, hgap⟩ := matches_append.mp hlead
    obtain ⟨hmem, hleft⟩ :=
      (matches_boundary_append_oneOf isWord_of_mem_bracketedKeywords).mp hkeyword
    rw [matches_char] at hopening
    exact ⟨keyword, gap, by rw [hopening], hmem, hleft, matches_blanks.mp hgap⟩
  · rintro ⟨keyword, gap, rfl, hmem, hleft, hgap⟩
    refine matches_append.mpr ⟨_, _, rfl, matches_append.mpr ⟨keyword, gap, rfl, ?_, ?_⟩, ?_⟩
    · exact (matches_boundary_append_oneOf isWord_of_mem_bracketedKeywords).mpr ⟨hmem, hleft⟩
    · exact matches_blanks.mpr hgap
    · exact matches_char.mpr rfl

private theorem matchesAt_bracketedPattern_iff : bracketedPattern.MatchesAt line front ↔
    ∃ keyword rest, Opens line front keyword rest ∧ HasOpenAssignment rest := by
  constructor
  · rintro ⟨matched, back, htext, hmatch⟩
    obtain ⟨_, closing, rfl, hmatch, hclosing⟩ := matches_append.mp hmatch
    obtain ⟨_, tail, rfl, hmatch, htail⟩ := matches_append.mp hmatch
    obtain ⟨_, sign, rfl, hmatch, hsign⟩ := matches_append.mp hmatch
    obtain ⟨_, left, rfl, hheader, hleft⟩ := matches_append.mp hmatch
    obtain ⟨keyword, gap, rfl, hmem, hedge, hgap⟩ := matches_header.mp hheader
    rw [matches_char] at hclosing
    rw [lastOf_none] at hedge
    obtain ⟨c, b, b', d, rfl, hclasses⟩ := matches_assignment.mp hsign
    refine ⟨keyword, left ++ c :: b :: CodePoint.ofChar '=' :: b' :: d ::
      (tail ++ CodePoint.ofChar ')' :: back), ⟨⟨gap, ?_, hgap⟩, hmem, hedge⟩, left,
      tail ++ CodePoint.ofChar ')' :: back, ⟨c, b, b', d, rfl, hclasses⟩,
      matches_many_ne_iff.mp hleft, by simp⟩
    rw [htext, hclosing]
    simp
  · rintro ⟨keyword, rest, ⟨⟨gap, htext, hgap⟩, hmem, hedge⟩, left, right,
      ⟨c, b, b', d, rfl, hclasses⟩, hleft, hright⟩
    obtain ⟨tail, back, rfl, htail⟩ := List.eq_append_cons_of_mem hright
    refine ⟨keyword ++ gap ++ [CodePoint.ofChar '('] ++ left ++
      [c, b, CodePoint.ofChar '=', b', d] ++ tail ++ [CodePoint.ofChar ')'], back, ?_, ?_⟩
    · rw [htext]
      simp
    · refine matches_append.mpr ⟨_, _, rfl, matches_append.mpr ⟨_, _, rfl, matches_append.mpr
        ⟨_, _, rfl, matches_append.mpr ⟨_, left, rfl, ?_, ?_⟩, ?_⟩, ?_⟩, ?_⟩
      · exact matches_header.mpr ⟨keyword, gap, rfl, hmem, by rwa [lastOf_none], hgap⟩
      · exact matches_many_ne_iff.mpr hleft
      · exact matches_assignment.mpr ⟨c, b, b', d, rfl, hclasses⟩
      · exact matches_many_ne_iff.mpr htail
      · exact matches_char.mpr rfl

theorem fires_bracketedRule_iff (trimmed : Text) : bracketedRule.fires line trimmed = true ↔
    ∃ front keyword rest, Opens line front keyword rest ∧ HasOpenAssignment rest := by
  change bracketedPattern.occursIn line = true ↔ _
  rw [occursIn_iff_exists_matchesAt]
  exact exists_congr fun front => matchesAt_bracketedPattern_iff

section Clauses

def HasSpacedSign (text : Text) : Prop :=
  ∃ left b b' right, text = left ++ b :: CodePoint.ofChar '=' :: b' :: right ∧
    b.isBlank = true ∧ b'.isBlank = true

/-- The condition of a header: of the clauses of a `for` the second one, of any other header all
that stands in its parentheses. -/
def conditionOf (keyword inside : Text) : Text :=
  if keyword = Text.ofString "for" then ((inside.splitOn (CodePoint.ofChar ';'))[1]?).getD []
  else inside

def HasSignInCondition (line : Text) : Prop :=
  ∃ front keyword rest, Opens line front keyword rest ∧
    HasSpacedSign (conditionOf keyword (Bracket.parentheses.inside 0 rest))

/-- An equals sign stands between blanks directly behind what closes the parentheses. -/
def HasSignBehind (rest : Text) : Prop :=
  ∃ b b' right, rest = Bracket.parentheses.inside 0 rest ++
    CodePoint.ofChar ')' :: b :: CodePoint.ofChar '=' :: b' :: right ∧
      b.isBlank = true ∧ b'.isBlank = true

private theorem inside_spacedSign {b b' : CodePoint} (hb : b.isBlank = true)
    (hb' : b'.isBlank = true)
    (depth : Nat) (right : Text) :
    Bracket.parentheses.inside depth (b :: CodePoint.ofChar '=' :: b' :: right) =
      b :: CodePoint.ofChar '=' :: b' :: Bracket.parentheses.inside depth right := by
  have hne : ∀ {c : CodePoint}, c.isBlank = true →
      c ≠ Bracket.parentheses.opening ∧ c ≠ Bracket.parentheses.closing := by
    intro c hc
    constructor
    · rintro rfl
      exact absurd hc (by decide)
    · rintro rfl
      exact absurd hc (by decide)
  rw [Bracket.inside_cons_of_ne (hne hb).1 (hne hb).2,
    Bracket.inside_cons_of_ne (by decide) (by decide),
    Bracket.inside_cons_of_ne (hne hb').1 (hne hb').2]

private theorem hasSpacedSign_inside_or_behind (h : HasOpenAssignment rest) :
    HasSpacedSign (Bracket.parentheses.inside 0 rest) ∨ HasSignBehind rest := by
  obtain ⟨left, right, ⟨c, b, b', d, rfl, -, hb, hb', -⟩, hleft, -⟩ := h
  have hinside := fun more => @Bracket.inside_append Bracket.parentheses left hleft 0 more
  rw [Nat.zero_add] at hinside
  generalize left.count Bracket.parentheses.opening = depth at hinside
  -- Unless what stands before the sign closes the header, the sign is reached at some depth.
  have hreached : ∀ depth', Bracket.parentheses.inside depth
      (c :: b :: CodePoint.ofChar '=' :: b' :: d :: right) =
        c :: Bracket.parentheses.inside depth' (b :: CodePoint.ofChar '=' :: b' :: d :: right) →
      HasSpacedSign (Bracket.parentheses.inside 0
        (left ++ c :: b :: CodePoint.ofChar '=' :: b' :: d :: right)) := by
    intro depth' hnext
    rw [hinside, hnext, inside_spacedSign hb hb']
    exact ⟨left ++ [c], b, b', Bracket.parentheses.inside depth' (d :: right), by simp, hb, hb'⟩
  by_cases hopening : c = Bracket.parentheses.opening
  · refine Or.inl (hreached (depth + 1) ?_)
    rw [Bracket.inside.eq_def]
    dsimp only
    rw [if_pos hopening]
  · by_cases hclosing : c = Bracket.parentheses.closing
    · cases depth with
      | zero =>
        have hend : Bracket.parentheses.inside 0
            (c :: b :: CodePoint.ofChar '=' :: b' :: d :: right) = [] := by
          rw [Bracket.inside, if_neg hopening, if_pos hclosing]
        refine Or.inr ⟨b, b', d :: right, ?_, hb, hb'⟩
        rw [hinside, hend, List.append_nil, hclosing]
        rfl
      | succ depth =>
        refine Or.inl (hreached depth ?_)
        rw [Bracket.inside, if_neg hopening, if_pos hclosing]
    · exact Or.inl (hreached depth (Bracket.inside_cons_of_ne hopening hclosing depth _))

/-- The rule about conditions in parentheses fires exactly where a header is followed by an
assignment before anything is closed. The sign stands in the condition of that header, unless the
header is that of a `for` or the sign stands directly behind the header. In a `for` the rule looks at
all clauses alike: an assignment in the first clause is reported whatever the others are. -/
theorem bracketedRule_looks_at_headers (line trimmed : Text) :
    (bracketedRule.fires line trimmed = true ↔
      ∃ front keyword rest, Opens line front keyword rest ∧ HasOpenAssignment rest) ∧
    (∀ front keyword rest, Opens line front keyword rest → HasOpenAssignment rest →
      HasSpacedSign (conditionOf keyword (Bracket.parentheses.inside 0 rest)) ∨
      keyword = Text.ofString "for" ∧ HasSpacedSign (Bracket.parentheses.inside 0 rest) ∨
      HasSignBehind rest) ∧
    ∀ front first others left right,
      Opens line front (Text.ofString "for") (first ++ CodePoint.ofChar ';' :: others) →
        first.Assigns left right → CodePoint.ofChar ')' ∉ left → CodePoint.ofChar ')' ∈ others →
          bracketedRule.fires line trimmed = true := by
  have hfires := @fires_bracketedRule_iff line trimmed
  refine ⟨hfires, ?_, ?_⟩
  · intro front keyword rest _ hassignment
    rcases hasSpacedSign_inside_or_behind hassignment with hinside | hbehind
    · by_cases hfor : keyword = Text.ofString "for"
      · exact Or.inr (Or.inl ⟨hfor, hinside⟩)
      · refine Or.inl ?_
        rwa [conditionOf, if_neg hfor]
    · exact Or.inr (Or.inr hbehind)
  · rintro front first others left right hopens ⟨c, b, b', d, rfl, hclasses⟩ hleft hothers
    rw [hfires]
    refine ⟨front, _, _, hopens, left, right ++ CodePoint.ofChar ';' :: others,
      ⟨c, b, b', d, by simp, hclasses⟩, hleft, ?_⟩
    exact List.mem_append_right _ (List.mem_cons_of_mem _ hothers)

/-- An ordinary counting loop is reported, though it has no sign in its condition. -/
theorem bracketedRule_looks_at_headers_of_counting_loop :
    let line : Text := Text.ofString "for (int i = 0; i < n; i++)"
    bracketedRule.fires line line = true ∧ ¬ HasSignInCondition line := by
  intro line
  have hloop : Opens line [] (Text.ofString "for")
      (Text.ofString "int i = 0" ++ CodePoint.ofChar ';' :: Text.ofString " i < n; i++)") :=
    ⟨⟨Text.ofString " ", by decide, by decide⟩, by decide, by decide⟩
  have hassigns : (Text.ofString "int i = 0").Assigns (Text.ofString "int ") [] :=
    ⟨'i', ' ', ' ', '0', by decide, by decide, by decide, by decide, by decide⟩
  refine ⟨(bracketedRule_looks_at_headers line line).2.2 [] _ _ _ _ hloop hassigns (by decide)
    (by decide), ?_⟩
  rintro ⟨front, keyword, rest, ⟨⟨gap, hsplit, hgap⟩, hkeyword, -⟩, left, b, b', right, hsign, -⟩
  -- The line has a single opening parenthesis, so that its only header is the loop.
  have hopening : Text.ofString "for " ++ CodePoint.ofChar '(' ::
      Text.ofString "int i = 0; i < n; i++)" =
        (front ++ (keyword ++ gap)) ++ CodePoint.ofChar '(' :: rest := by
    rw [List.append_assoc, List.append_assoc, ← hsplit]
    decide
  obtain ⟨hhead, -, rfl⟩ :=
    (List.append_cons_inj_of_notMem (by decide) (by decide)).mp hopening
  have hfor : keyword = Text.ofString "for" := by
    have hinfix : keyword <:+: Text.ofString "for " := ⟨front, gap, by simpa using hhead.symm⟩
    have honly : ∀ word ∈ bracketedKeywords, word <:+: Text.ofString "for " →
        word = Text.ofString "for" := by
      decide
    exact honly keyword hkeyword hinfix
  have hcondition : conditionOf (Text.ofString "for") (Bracket.parentheses.inside 0
      (Text.ofString "int i = 0; i < n; i++)")) = Text.ofString " i < n" := by
    decide +kernel
  rw [hfor, hcondition] at hsign
  have hmem : CodePoint.ofChar '=' ∈ Text.ofString " i < n" := by
    rw [hsign]
    simp
  exact absurd hmem (by decide)

end Clauses

section Naming

theorem Opens.exists_standsAt (hopens : Opens line front keyword rest) :
    ∃ more, StandsAt bracketedKeywords line front keyword more := by
  have hparenthesis : (CodePoint.ofChar '(').isWord = false :=
    (CodePoint.isWord_of_ascii (by decide)).trans (by decide)
  obtain ⟨⟨gap, hsplit, hgap⟩, hkeyword, hleft⟩ := hopens
  refine ⟨gap ++ CodePoint.ofChar '(' :: rest, hsplit, hkeyword, hleft, ?_⟩
  cases gap with
  | nil =>
    rw [List.nil_append, List.head?_cons, Option.any_some]
    exact hparenthesis
  | cons c gap => exact CodePoint.isWord_eq_false_of_isBlank (hgap c List.mem_cons_self)

theorem message_injective : Function.Injective message :=
  (List.append_left_injective _).comp (List.append_right_injective _)

theorem message_report_bracketedRule {trimmed other later : Text} {earlier : Text}
    (h : IsLeftmost bracketedKeywords line earlier other later) (number : Int) :
    (bracketedRule.report line trimmed number).message = message other :=
  congrArg message (h.keyword_eq isWord_of_mem_bracketedKeywords)

/-- The report about conditions in parentheses names the leftmost keyword of the line. This is the
keyword of the header at which the pattern matches unless another one stands in front of that
header; then the report names the leftmost of those. -/
theorem bracketedRule_names_leftmost_keyword (line trimmed : Text) (number : Int)
    (hfires : bracketedRule.fires line trimmed = true) :
    ∃ front keyword rest, bracketedPattern.MatchesFirstAt line front ∧
      Opens line front keyword rest ∧ HasOpenAssignment rest ∧
        ((bracketedRule.report line trimmed number).message = message keyword ↔
          ∀ earlier other later, IsLeftmost bracketedKeywords front earlier other later →
            other = keyword) ∧
        ∀ earlier other later, IsLeftmost bracketedKeywords front earlier other later →
          (bracketedRule.report line trimmed number).message = message other := by
  have hkeywords := isWord_of_mem_bracketedKeywords
  obtain ⟨front, hmatch⟩ := exists_matchesFirstAt hfires
  obtain ⟨keyword, rest, hopens, hassignment⟩ := matchesAt_bracketedPattern_iff.mp hmatch.matchesAt
  obtain ⟨more, hstands⟩ := hopens.exists_standsAt
  have hfront : ∀ earlier other later, IsLeftmost bracketedKeywords front earlier other later →
      (bracketedRule.report line trimmed number).message = message other := by
    intro earlier other later hleftmost
    exact message_report_bracketedRule (hleftmost.append hkeywords hstands) number
  refine ⟨front, keyword, rest, hmatch, hopens, hassignment, ?_, hfront⟩
  constructor
  · intro hnamed earlier other later hleftmost
    exact message_injective ((hfront earlier other later hleftmost).symm.trans hnamed)
  · intro hsame
    by_cases hnone : ∀ earlier other later, ¬ StandsAt bracketedKeywords front earlier other later
    · exact message_report_bracketedRule (hstands.isLeftmost hkeywords hnone) number
    · push Not at hnone
      obtain ⟨earlier, other, later, hother⟩ := hnone
      obtain ⟨earlier, other, later, -, hleftmost⟩ := hother.exists_isLeftmost hkeywords
      rw [hfront earlier other later hleftmost, hsame earlier other later hleftmost]

/-- The assignment is in the second condition of the line, and the first one is named. -/
theorem bracketedRule_names_leftmost_keyword_of_two_headers :
    let line : Text := Text.ofString "if (ready) while (n = next()) f(n);"
    bracketedRule.fires line line = true ∧
      bracketedPattern.MatchesFirstAt line (Text.ofString "if (ready) ") ∧
      Opens line (Text.ofString "if (ready) ") (Text.ofString "while")
        (Text.ofString "n = next()) f(n);") ∧
      (bracketedRule.report line line 1).message = message (Text.ofString "if") := by
  intro line
  have hfires : bracketedRule.fires line line = true := by
    decide +kernel
  have hmatch : bracketedPattern.MatchesFirstAt line (Text.ofString "if (ready) ") := by
    decide +kernel
  have hopens : Opens line (Text.ofString "if (ready) ") (Text.ofString "while")
      (Text.ofString "n = next()) f(n);") :=
    ⟨⟨Text.ofString " ", by decide, by decide⟩, by decide, by decide +kernel⟩
  have hleftmost : IsLeftmost bracketedKeywords (Text.ofString "if (ready) ") []
      (Text.ofString "if") (Text.ofString " (ready) ") :=
    ⟨⟨by decide, by decide, by decide, by decide +kernel⟩, fun _ => Nat.zero_le _⟩
  obtain ⟨front, keyword, rest, hfirst, -, -, -, hnamed⟩ :=
    bracketedRule_names_leftmost_keyword line line 1 hfires
  obtain rfl := hfirst.unique hmatch
  exact ⟨hfires, hmatch, hopens, hnamed _ _ _ hleftmost⟩

end Naming

end Condition

end SnippetReview
