import Mathlib.Data.List.Infix
import SnippetReview.Proofs.Text.Blank
import SnippetReview.Settings.Assignments

/-!
Files of plain assignments: lines with a name, an equals sign and a value that needs no quotes.
They are read as they are written, line by line.
-/

set_option autoImplicit false

namespace SnippetReview.Assignments

/-- The name and the value can stand on a line without quotes: the name has no blank and no mark that
ends it, and the value fits on the line, has no blanks at its ends, begins with no quote, and holds
neither a comment nor a reference to another name. An environment takes no zeros in either. -/
structure IsPlain (name value : Text) : Prop where
  name_ne_nil : name ≠ []
  name_marks : ∀ c ∈ name, c ≠ CodePoint.ofChar '=' ∧ c ≠ CodePoint.ofChar '#' ∧ c.isBlank = false
  name_head : name.head? ≠ some (CodePoint.ofChar '\'')
  value_line : ∀ c ∈ value, endsLine c = false
  value_trim : value.trim = value
  value_head : ∀ c, value.head? = some c → c ≠ CodePoint.ofChar '\'' ∧ c ≠ CodePoint.ofChar '"'
  value_comment : ∀ c : CodePoint, c.isBlank = true → ¬ [c, CodePoint.ofChar '#'] <:+: value
  value_reference : ¬ Text.ofString "$\x7b" <:+: value
  zero_free : ∀ c ∈ name ++ value, c ≠ CodePoint.ofChar '\x00'

def lineEnds : List Text :=
  ["\n", "\r\n"]

/-- The file consists of lines with these names and values; the last line may lack its end. -/
inductive Writes : Text → List (Text × Text) → Prop where
  | nil : Writes [] []
  | last {name value : Text} (h : IsPlain name value) :
      Writes (name ++ CodePoint.ofChar '=' :: value) [(name, value)]
  | line {name value lineEnd rest : Text} {lines : List (Text × Text)} (h : IsPlain name value)
      (hend : lineEnd ∈ lineEnds) (hrest : Writes rest lines) :
      Writes (name ++ CodePoint.ofChar '=' :: (value ++ (lineEnd ++ rest)))
        ((name, value) :: lines)

private theorem isBlank_of_endsLine {c : CodePoint} (h : endsLine c = true) : c.isBlank = true := by
  simp only [endsLine, Bool.or_eq_true, decide_eq_true_eq] at h
  rcases h with rfl | rfl <;> decide

private theorem endsLine_eq_false_of_visible {c : CodePoint} (h : c.isBlank = false) :
    endsLine c = false := by
  rw [Bool.eq_false_iff]
  intro hline
  rw [isBlank_of_endsLine hline] at h
  cases h

private theorem isSpace_eq_false_of_visible {c : CodePoint} (h : c.isBlank = false) :
    isSpace c = false := by
  rw [isSpace, h, Bool.false_and]

private theorem skipSpace_eq_self {text : Text} (h : ∀ c, text.head? = some c → isSpace c = false) :
    skipSpace text = text := by
  cases text with
  | nil => rfl
  | cons c text => exact List.dropWhile_cons_of_neg (by simp [h c rfl])

private theorem takeWhile_append_of_head {p : CodePoint → Bool} {run rest : Text}
    (hrun : ∀ c ∈ run, p c = true) (hrest : ∀ c, rest.head? = some c → p c = false) :
    (run ++ rest).takeWhile p = run := by
  have hstop : rest.takeWhile p = [] := by
    cases rest with
    | nil => rfl
    | cons c rest => exact List.takeWhile_cons_of_neg (by simp [hrest c rfl])
  rw [List.takeWhile_append_of_pos hrun, hstop, List.append_nil]

section UnifyLines

private theorem unifyLines_cons {c : CodePoint} (hc : c ≠ CodePoint.ofChar '\r') (text : Text) :
    unifyLines (c :: text) = c :: unifyLines text := by
  cases text with
  | nil => rw [unifyLines, unifyLines, if_neg hc]
  | cons d text => rw [unifyLines, if_neg hc]

private theorem unifyLines_append {text : Text} (h : ∀ c ∈ text, endsLine c = false) (rest : Text) :
    unifyLines (text ++ rest) = text ++ unifyLines rest := by
  induction text with
  | nil => rfl
  | cons c text ih =>
    obtain ⟨hc, htext⟩ := List.forall_mem_cons.mp h
    have hreturn : c ≠ CodePoint.ofChar '\r' := by
      rintro rfl
      revert hc
      decide
    rw [List.cons_append, unifyLines_cons hreturn, ih htext, List.cons_append]

private theorem unifyLines_lineEnd {lineEnd : Text} (hend : lineEnd ∈ lineEnds) (rest : Text) :
    unifyLines (lineEnd ++ rest) = CodePoint.ofChar '\n' :: unifyLines rest := by
  simp only [lineEnds, List.mem_cons, List.not_mem_nil, or_false] at hend
  rcases hend with rfl | rfl
  · exact unifyLines_cons (by decide) rest
  · rfl

end UnifyLines

namespace IsPlain

variable {name value : Text}

private theorem name_line (h : IsPlain name value) {c : CodePoint} (hc : c ∈ name) :
    endsLine c = false :=
  endsLine_eq_false_of_visible (h.name_marks c hc).2.2

/-- Without blanks, quotes, number signs, dollar signs and zeros, a name and a value are plain. -/
theorem of_visible (hne : name ≠ [])
    (hname : ∀ c ∈ name, c ≠ CodePoint.ofChar '=' ∧ c ≠ CodePoint.ofChar '#' ∧ c.isBlank = false)
    (hquote : name.head? ≠ some (CodePoint.ofChar '\''))
    (hvalue : ∀ c ∈ value, c.isBlank = false ∧ c ∉ Text.ofString "'\"#$")
    (hzero : ∀ c ∈ name ++ value, c ≠ CodePoint.ofChar '\x00') : IsPlain name value where
  name_ne_nil := hne
  name_marks := hname
  name_head := hquote
  value_line c hc := endsLine_eq_false_of_visible (hvalue c hc).1
  value_trim := by
    rw [Text.trim, Text.trimLeft_eq_self fun c hc => (hvalue c (List.mem_of_mem_head? hc)).1]
    exact Text.trimRight_eq_self fun c hc => (hvalue c (List.mem_of_getLast? hc)).1
  value_head c hc := by
    have hmarks := (hvalue c (List.mem_of_mem_head? hc)).2
    constructor
    all_goals
      rintro rfl
      exact hmarks (by decide)
  value_comment c _ hinside :=
    (hvalue _ (hinside.subset (List.mem_cons_of_mem c List.mem_cons_self))).2 (by decide)
  value_reference hinside :=
    (hvalue (CodePoint.ofChar '$') (hinside.subset (by decide))).2 (by decide)
  zero_free := hzero

private theorem skipExport_eq_self (h : IsPlain name value) (rest : Text) :
    skipExport (name ++ CodePoint.ofChar '=' :: rest) =
      name ++ CodePoint.ofChar '=' :: rest := by
  rw [skipExport]
  refine if_neg ?_
  rw [Bool.and_eq_true, List.isPrefixOf_iff_prefix, Option.any_eq_true]
  rintro ⟨⟨after, hafter⟩, c, hhead, hspace⟩
  rw [← hafter, List.drop_left] at hhead
  obtain ⟨more, rfl⟩ := List.head?_eq_some_iff.mp hhead
  have hequals : isSpace (CodePoint.ofChar '=') = false := by
    decide
  have hword : CodePoint.ofChar '=' ∉ Text.ofString "export" := by
    decide
  rcases List.append_eq_append_iff.mp hafter with ⟨gap, hname, hrest⟩ | ⟨gap, hexport, hrest⟩
  · cases gap with
    | nil =>
      cases hrest
      simp [hequals] at hspace
    | cons d gap =>
      cases hrest
      have hc := (h.name_marks c (by simp [hname])).2.2
      rw [isSpace_eq_false_of_visible hc] at hspace
      cases hspace
  · cases gap with
    | nil =>
      cases hrest
      simp [hequals] at hspace
    | cons d gap =>
      cases hrest
      exact hword (by simp [hexport])

private theorem name?_eq (h : IsPlain name value) (rest : Text) :
    name? (name ++ CodePoint.ofChar '=' :: rest) =
      some (some name, CodePoint.ofChar '=' :: rest) := by
  obtain ⟨c, more, rfl⟩ := List.exists_cons_of_ne_nil h.name_ne_nil
  have hrun : ((c :: more) ++ CodePoint.ofChar '=' :: rest).takeWhile
      (fun c : CodePoint => c ≠ CodePoint.ofChar '=' && c ≠ CodePoint.ofChar '#' && !c.isBlank) =
        c :: more := by
    refine takeWhile_append_of_head ?_ ?_
    · intro d hd
      simp [h.name_marks d hd]
    · intro d hd
      cases hd
      decide
  have hsign : c ≠ CodePoint.ofChar '#' := (h.name_marks c (by simp)).2.1
  have hquote : c ≠ CodePoint.ofChar '\'' := by
    have := h.name_head
    simpa using this
  rw [List.cons_append] at hrun ⊢
  simp only [name?]
  rw [if_neg hsign, if_neg hquote, hrun]
  simp

end IsPlain

private theorem exists_infix_of_comment {c : CodePoint} (hc : c.isBlank = true) {text : Text}
    (h : (text.dropWhile CodePoint.isBlank).head? = some (CodePoint.ofChar '#')) :
    ∃ d : CodePoint, d.isBlank = true ∧ [d, CodePoint.ofChar '#'] <:+: c :: text := by
  induction text generalizing c with
  | nil => cases h
  | cons d text ih =>
    by_cases hd : d.isBlank = true
    · rw [List.dropWhile_cons_of_pos hd] at h
      obtain ⟨e, he, hinside⟩ := ih hd h
      exact ⟨e, he, List.infix_cons hinside⟩
    · rw [List.dropWhile_cons_of_neg hd, List.head?_cons, Option.some_inj] at h
      exact ⟨c, hc, [], text, by rw [h]; rfl⟩

private theorem cutComment_eq_self {text : Text}
    (h : ∀ c : CodePoint, c.isBlank = true → ¬ [c, CodePoint.ofChar '#'] <:+: text) :
    cutComment text = text := by
  induction text with
  | nil => rfl
  | cons c text ih =>
    have hkept : ¬ (c.isBlank = true ∧
        (text.dropWhile CodePoint.isBlank).head? = some (CodePoint.ofChar '#')) := by
      rintro ⟨hc, hcomment⟩
      obtain ⟨d, hd, hinside⟩ := exists_infix_of_comment hc hcomment
      exact h d hd hinside
    rw [cutComment, if_neg (by simpa using hkept)]
    rw [ih fun d hd hinside => h d hd (List.infix_cons hinside)]

/-- Nothing of a line is left: the text is over, or the end of the line stands next. -/
def AtLineEnd (rest : Text) : Prop :=
  ∀ c, rest.head? = some c → endsLine c = true

private theorem AtLineEnd.not_isSpace {rest : Text} (h : AtLineEnd rest) {c : CodePoint}
    (hc : rest.head? = some c) : isSpace c = false := by
  rw [isSpace, h c hc, Bool.not_true, Bool.and_false]

private theorem lineEnd?_of_atLineEnd {rest : Text} (h : AtLineEnd rest) :
    lineEnd? rest = some (rest.drop 1) := by
  have hspace : skipSpace rest = rest :=
    skipSpace_eq_self fun _ hc => h.not_isSpace hc
  have hcomment : rest.head? ≠ some (CodePoint.ofChar '#') := by
    intro hsign
    have := h _ hsign
    revert this
    decide
  rw [lineEnd?, hspace, if_neg hcomment]
  cases rest with
  | nil => rfl
  | cons c rest =>
    show (if endsLine c = true then some rest else none) = some rest
    rw [if_pos (h c rfl)]

namespace IsPlain

variable {name value rest : Text}

private theorem skipSpace_value (h : IsPlain name value) (hrest : AtLineEnd rest) :
    skipSpace (value ++ rest) = value ++ rest := by
  refine skipSpace_eq_self fun c hc => ?_
  cases value with
  | nil => exact hrest.not_isSpace hc
  | cons d value =>
    have htrim : (Text.trim (d :: value)).head? = some c := by
      rw [h.value_trim]
      exact hc
    exact isSpace_eq_false_of_visible (Text.isBlank_head_trim htrim)

private theorem value?_eq (h : IsPlain name value) (hrest : AtLineEnd rest) :
    value? (value ++ rest) = some (value, rest) := by
  have hline : (value ++ rest).takeWhile (!endsLine ·) = value :=
    takeWhile_append_of_head (by simpa using h.value_line) fun c hc => by simp [hrest c hc]
  have htrim : value.trimRight = value := by
    rw [← h.value_trim, Text.trimRight_trim]
  cases hfront : value ++ rest with
  | nil =>
    obtain ⟨rfl, rfl⟩ := List.append_eq_nil_iff.mp hfront
    rfl
  | cons c more =>
    have hquotes : c ≠ CodePoint.ofChar '\'' ∧ c ≠ CodePoint.ofChar '"' := by
      cases value with
      | nil =>
        have hends := hrest c (by simpa using congrArg List.head? hfront)
        constructor
        all_goals
          rintro rfl
          revert hends
          decide
      | cons d value =>
        cases hfront
        exact h.value_head c rfl
    rw [value?, if_neg hquotes.1, if_neg hquotes.2]
    rw [← hfront]
    simp only [hline, cutComment_eq_self h.value_comment, htrim, List.drop_left]

private theorem line_eq (h : IsPlain name value) (hrest : AtLineEnd rest) :
    line (name ++ CodePoint.ofChar '=' :: (value ++ rest)) =
      .ok (some (name, some value), rest.drop 1) := by
  have hequals : skipSpace (CodePoint.ofChar '=' :: (value ++ rest)) =
      CodePoint.ofChar '=' :: (value ++ rest) := by
    refine skipSpace_eq_self fun c hc => ?_
    cases hc
    decide
  simp only [line, bind, Except.bind, h.skipExport_eq_self, h.name?_eq, Option.elim_some, hequals,
    if_true, h.skipSpace_value hrest, h.value?_eq hrest, lineEnd?_of_atLineEnd hrest]
  rfl

private theorem readLines_eq (h : IsPlain name value) (hrest : AtLineEnd rest) (fuel : Nat) :
    readLines (fuel + 1) (name ++ CodePoint.ofChar '=' :: (value ++ rest)) =
      (name, some value) :: readLines fuel (rest.drop 1) := by
  obtain ⟨c, more, rfl⟩ := List.exists_cons_of_ne_nil h.name_ne_nil
  have hvisible : c.isBlank = false := (h.name_marks c (by simp)).2.2
  have hstart : ((c :: more) ++ CodePoint.ofChar '=' :: (value ++ rest)).dropWhile
      CodePoint.isBlank = (c :: more) ++ CodePoint.ofChar '=' :: (value ++ rest) :=
    List.dropWhile_cons_of_neg (by simp [hvisible])
  rw [readLines, hstart]
  simp only [List.cons_append]
  rw [← List.cons_append, h.line_eq hrest]
  rfl

end IsPlain

private theorem readLines_nil (fuel : Nat) : readLines fuel [] = [] := by
  cases fuel <;> rfl

private theorem readLines_of_writes {file : Text} {lines : List (Text × Text)}
    (h : Writes file lines)
    {fuel : Nat} (hfuel : file.length < fuel) :
    readLines fuel (unifyLines file) = lines.map fun line => (line.1, some line.2) := by
  induction h generalizing fuel with
  | nil => exact readLines_nil fuel
  | @last name value hplain =>
    obtain ⟨fuel, rfl⟩ := Nat.exists_eq_add_one_of_ne_zero (Nat.ne_zero_of_lt hfuel)
    have hunified : unifyLines (name ++ CodePoint.ofChar '=' :: value) =
        name ++ CodePoint.ofChar '=' :: (value ++ []) := by
      have hvalue := unifyLines_append hplain.value_line []
      rw [List.append_nil] at hvalue
      rw [unifyLines_append fun c hc => hplain.name_line hc, unifyLines_cons (by decide), hvalue]
      rfl
    have hend : AtLineEnd [] := by
      intro c hc
      cases hc
    rw [hunified, hplain.readLines_eq hend, List.drop_nil, readLines_nil]
    rfl
  | @line name value lineEnd rest lines hplain hend _ ih =>
    obtain ⟨fuel, rfl⟩ := Nat.exists_eq_add_one_of_ne_zero (Nat.ne_zero_of_lt hfuel)
    have hunified : unifyLines (name ++ CodePoint.ofChar '=' :: (value ++ (lineEnd ++ rest))) =
        name ++ CodePoint.ofChar '=' :: (value ++ CodePoint.ofChar '\n' :: unifyLines rest) := by
      rw [unifyLines_append fun c hc => hplain.name_line hc, unifyLines_cons (by decide)]
      rw [unifyLines_append hplain.value_line, unifyLines_lineEnd hend]
    have hend' : AtLineEnd (CodePoint.ofChar '\n' :: unifyLines rest) := by
      intro c hc
      cases hc
      decide
    have hshort : rest.length < fuel := by
      simp only [List.length_append, List.length_cons] at hfuel
      omega
    rw [hunified, hplain.readLines_eq hend', List.drop_one, List.tail_cons, ih hshort]
    rfl

/-- A file of plain lines yields its lines. -/
theorem read_of_writes {file : Text} {lines : List (Text × Text)} (h : Writes file lines) :
    read file = lines.map fun line => (line.1, some line.2) :=
  readLines_of_writes h (Nat.lt_succ_self _)

end SnippetReview.Assignments
