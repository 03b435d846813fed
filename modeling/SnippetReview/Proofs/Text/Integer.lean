import Mathlib.Data.List.DropRight
import Mathlib.Data.Nat.Digits.Defs
import SnippetReview.Proofs.Text.Blank
import SnippetReview.Proofs.Text.Numeral

/-!
Which texts are read as integers, said without the reader: a sign or none, decimal digits of any
script with single underscores between them, and padding around it all.
-/

set_option autoImplicit false

namespace SnippetReview

namespace Numeral

/-- The text spells the digits in their order, with single underscores between some of them. -/
inductive Spells : Text → List Nat → Prop where
  | last {c : CodePoint} {digit : Nat} (hc : c.digit? = some digit) : Spells [c] [digit]
  | next {c : CodePoint} {digit : Nat} {text : Text} {digits : List Nat}
      (hc : c.digit? = some digit) (h : Spells text digits) : Spells (c :: text) (digit :: digits)
  | apart {c : CodePoint} {digit : Nat} {text : Text} {digits : List Nat}
      (hc : c.digit? = some digit) (h : Spells text digits) :
      Spells (c :: CodePoint.ofChar '_' :: text) (digit :: digits)

def signs : List (Text × Int) :=
  [([], 1), ([CodePoint.ofChar '+'], 1), ([CodePoint.ofChar '-'], -1)]

/-- The text is a numeral of the integer: at most as many digits as may be read, with a sign before
them and padding around both. -/
def Denotes (text : Text) (n : Int) : Prop :=
  ∃ (left sign body right : Text) (factor : Int) (digits : List Nat),
    text = left ++ (sign ++ (body ++ right)) ∧
    (∀ c ∈ left, isPadding c = true) ∧ (∀ c ∈ right, isPadding c = true) ∧
    (sign, factor) ∈ signs ∧ Spells body digits ∧ digits.length ≤ maxDigits ∧
    n = factor * (Nat.ofDigits 10 digits.reverse : Nat)

private theorem Spells.exists_head {text : Text} {digits : List Nat} (h : Spells text digits) :
    ∃ c, text.head? = some c ∧ c.isDigit = true := by
  cases h with
  | last hc | next hc _ | apart hc _ => exact ⟨_, rfl, by rw [CodePoint.isDigit, hc]; rfl⟩

private theorem Spells.exists_last {text : Text} {digits : List Nat} (h : Spells text digits) :
    ∃ c, text.getLast? = some c ∧ c.isDigit = true := by
  induction h with
  | @last c digit hc => exact ⟨c, rfl, by rw [CodePoint.isDigit, hc]; rfl⟩
  | next _ _ ih =>
    obtain ⟨c, hlast, hdigit⟩ := ih
    exact ⟨c, by rw [List.getLast?_cons, hlast]; rfl, hdigit⟩
  | apart _ _ ih =>
    obtain ⟨c, hlast, hdigit⟩ := ih
    exact ⟨c, by rw [List.getLast?_cons, List.getLast?_cons, hlast]; rfl, hdigit⟩

private theorem Spells.cons_ne_underscore {c : CodePoint} {text : Text} {digits : List Nat}
    (h : Spells (c :: text) digits) : c ≠ CodePoint.ofChar '_' := by
  obtain ⟨d, hd, hdigit⟩ := h.exists_head
  cases hd
  rintro rfl
  revert hdigit
  decide

private theorem digits?_cons_cons (c d : CodePoint) (rest : Text) :
    digits? (c :: d :: rest) = c.digit?.bind fun digit =>
      (digits? (if d = CodePoint.ofChar '_' then rest else d :: rest)).map (digit :: ·) := by
  rw [digits?]
  cases c.digit? with
  | none => rfl
  | some digit =>
    by_cases hd : d = CodePoint.ofChar '_'
    · simp only [hd, if_true]
      cases digits? rest <;> rfl
    · simp only [hd, if_false]
      cases digits? (d :: rest) <;> rfl

private theorem digits?_eq_some_iff {text : Text} {digits : List Nat} :
    digits? text = some digits ↔ Spells text digits := by
  constructor
  · intro h
    fun_induction digits? text generalizing digits with
    | case1 => cases h
    | case2 c =>
      obtain ⟨digit, hc, rfl⟩ := Option.map_eq_some_iff.mp h
      exact .last hc
    | case3 c d rest ih ih' =>
      rw [← digits?, digits?_cons_cons] at h
      obtain ⟨digit, hc, hmapped⟩ := Option.bind_eq_some_iff.mp h
      obtain ⟨more, hmore, rfl⟩ := Option.map_eq_some_iff.mp hmapped
      by_cases hd : d = CodePoint.ofChar '_'
      · rw [if_pos hd] at hmore
        rw [hd]
        exact .apart hc (ih hmore)
      · rw [if_neg hd] at hmore
        exact .next hc (ih' hmore)
  · intro h
    induction h with
    | last hc => rw [digits?, hc, Option.map_some]
    | @next c digit text digits hc hspells ih =>
      cases text with
      | nil => cases hspells
      | cons d text =>
        rw [digits?_cons_cons, hc, Option.bind_some, if_neg hspells.cons_ne_underscore, ih]
        rfl
    | apart hc _ ih =>
      rw [digits?_cons_cons, hc, Option.bind_some, if_pos rfl, ih]
      rfl

private theorem ofDigits_eq (digits : List Nat) :
    ofDigits digits = Nat.ofDigits 10 digits.reverse := by
  rw [ofDigits, List.foldl_eq_foldr_reverse, Nat.ofDigits_eq_foldr]
  congr 1
  funext digit value
  simp [Nat.add_comm]

private theorem nat?_eq_some_iff {text : Text} {n : Nat} : nat? text = some n ↔
    ∃ digits, Spells text digits ∧ digits.length ≤ maxDigits ∧
      n = Nat.ofDigits 10 digits.reverse := by
  have hread : nat? text = (digits? text).bind fun digits =>
      if digits.length ≤ maxDigits then some (ofDigits digits) else none := rfl
  rw [hread, Option.bind_eq_some_iff]
  constructor
  · rintro ⟨digits, hdigits, hvalue⟩
    split at hvalue
    · next hlength =>
      cases hvalue
      exact ⟨digits, digits?_eq_some_iff.mp hdigits, hlength, ofDigits_eq digits⟩
    · cases hvalue
  · rintro ⟨digits, hspells, hlength, rfl⟩
    refine ⟨digits, digits?_eq_some_iff.mpr hspells, ?_⟩
    rw [if_pos hlength, ofDigits_eq]

private theorem map_nat?_eq_some_iff {body : Text} {factor n : Int} :
    ((nat? body).map fun m : Nat => factor * m) = some n ↔
      ∃ digits, Spells body digits ∧ digits.length ≤ maxDigits ∧
        n = factor * (Nat.ofDigits 10 digits.reverse : Nat) := by
  rw [Option.map_eq_some_iff]
  simp only [nat?_eq_some_iff]
  constructor
  · rintro ⟨m, ⟨digits, hspells, hlength, rfl⟩, rfl⟩
    exact ⟨digits, hspells, hlength, rfl⟩
  · rintro ⟨digits, hspells, hlength, rfl⟩
    exact ⟨_, ⟨digits, hspells, hlength, rfl⟩, rfl⟩

private theorem signed?_append_of_mem_signs {sign body : Text} {factor : Int}
    (hsign : (sign, factor) ∈ signs)
    (hbody : ∃ c, body.head? = some c ∧ c.isDigit = true) :
    signed? (sign ++ body) = (nat? body).map fun m : Nat => factor * m := by
  simp only [signs, List.mem_cons, Prod.mk.injEq, List.not_mem_nil, or_false] at hsign
  rcases hsign with ⟨rfl, rfl⟩ | ⟨rfl, rfl⟩ | ⟨rfl, rfl⟩
  · obtain ⟨c, hhead, hdigit⟩ := hbody
    obtain ⟨rest, rfl⟩ := List.head?_eq_some_iff.mp hhead
    have hminus : c ≠ CodePoint.ofChar '-' := by
      rintro rfl
      revert hdigit
      decide
    have hplus : c ≠ CodePoint.ofChar '+' := by
      rintro rfl
      revert hdigit
      decide
    rw [List.nil_append, signed?, if_neg hminus, if_neg hplus]
    cases nat? (c :: rest) <;> simp
  · have hplus : CodePoint.ofChar '+' ≠ CodePoint.ofChar '-' := by
      decide
    rw [List.singleton_append, signed?, if_neg hplus, if_pos rfl]
    cases nat? body <;> simp
  · rw [List.singleton_append, signed?, if_pos rfl]
    cases nat? body <;> simp

private theorem exists_sign_of_signed? {text : Text} {n : Int} (h : signed? text = some n) :
    ∃ (sign body : Text) (factor : Int), text = sign ++ body ∧ (sign, factor) ∈ signs ∧
      ((nat? body).map fun m : Nat => factor * m) = some n := by
  cases text with
  | nil => cases h
  | cons c rest =>
    rw [signed?] at h
    by_cases hminus : c = CodePoint.ofChar '-'
    · refine ⟨[c], rest, -1, rfl, by simp [signs, hminus], ?_⟩
      rw [if_pos hminus] at h
      rw [← h]
      cases nat? rest <;> simp
    · rw [if_neg hminus] at h
      by_cases hplus : c = CodePoint.ofChar '+'
      · refine ⟨[c], rest, 1, rfl, by simp [signs, hplus], ?_⟩
        rw [if_pos hplus] at h
        rw [← h]
        cases nat? rest <;> simp
      · refine ⟨[], c :: rest, 1, rfl, by simp [signs], ?_⟩
        rw [if_neg hplus] at h
        rw [← h]
        cases nat? (c :: rest) <;> simp

private theorem signed?_eq_some_iff {text : Text} {n : Int} : signed? text = some n ↔
    ∃ (sign body : Text) (factor : Int) (digits : List Nat), text = sign ++ body ∧
      (sign, factor) ∈ signs ∧ Spells body digits ∧ digits.length ≤ maxDigits ∧
      n = factor * (Nat.ofDigits 10 digits.reverse : Nat) := by
  constructor
  · intro h
    obtain ⟨sign, body, factor, hsplit, hsign, hvalue⟩ := exists_sign_of_signed? h
    obtain ⟨digits, hdigits⟩ := map_nat?_eq_some_iff.mp hvalue
    exact ⟨sign, body, factor, digits, hsplit, hsign, hdigits⟩
  · rintro ⟨sign, body, factor, digits, rfl, hsign, hspells, hvalue⟩
    rw [signed?_append_of_mem_signs hsign hspells.exists_head]
    exact map_nat?_eq_some_iff.mpr ⟨digits, hspells, hvalue⟩

private theorem isPadding_eq_false_of_isDigit {c : CodePoint} (h : c.isDigit = true) :
    isPadding c = false := by
  rw [isPadding, CodePoint.isBlank_eq_false_of_isDigit h, Bool.false_and]

private theorem isPadding_eq_false_of_mem_signs {sign : Text} {factor : Int}
    (hsign : (sign, factor) ∈ signs) : ∀ c ∈ sign, isPadding c = false := by
  have hall : ∀ entry ∈ signs, ∀ c ∈ entry.1, isPadding c = false := by
    decide
  exact hall _ hsign

private theorem dropWhile_isPadding_core {left sign body right : Text} {factor : Int}
    {digits : List Nat}
    (hleft : ∀ c ∈ left, isPadding c = true) (hright : ∀ c ∈ right, isPadding c = true)
    (hsign : (sign, factor) ∈ signs) (hspells : Spells body digits) :
    ((left ++ (sign ++ (body ++ right))).dropWhile isPadding).rdropWhile isPadding =
      sign ++ body := by
  have hfront : (sign ++ (body ++ right)).dropWhile isPadding = sign ++ (body ++ right) := by
    cases sign with
    | nil =>
      obtain ⟨c, hhead, hdigit⟩ := hspells.exists_head
      obtain ⟨rest, rfl⟩ := List.head?_eq_some_iff.mp hhead
      exact List.dropWhile_cons_of_neg (by simp [isPadding_eq_false_of_isDigit hdigit])
    | cons c sign =>
      have hc := isPadding_eq_false_of_mem_signs hsign c (by simp)
      exact List.dropWhile_cons_of_neg (by simp [hc])
  have hback : (sign ++ body).rdropWhile isPadding = sign ++ body := by
    obtain ⟨c, hlast, hdigit⟩ := hspells.exists_last
    obtain ⟨front, rfl⟩ := List.getLast?_eq_some_iff.mp hlast
    rw [← List.append_assoc]
    exact List.rdropWhile_concat_neg _ _ _ (by simp [isPadding_eq_false_of_isDigit hdigit])
  have hpassed : (sign ++ body ++ right).rdropWhile isPadding =
      (sign ++ body).rdropWhile isPadding := by
    rw [List.rdropWhile, List.reverse_append, List.dropWhile_append_of_pos (by simpa using hright),
      List.rdropWhile]
  rw [List.dropWhile_append_of_pos hleft, hfront, ← List.append_assoc, hpassed, hback]

/-- A text is read as an integer exactly if it is a numeral of it. -/
theorem int?_eq_some_iff {text : Text} {n : Int} : int? text = some n ↔ Denotes text n := by
  have hcore : int? text = signed? ((text.dropWhile isPadding).rdropWhile isPadding) := rfl
  rw [hcore, signed?_eq_some_iff]
  constructor
  · rintro ⟨sign, body, factor, digits, hsplit, hsign, hspells, hlength, hvalue⟩
    refine ⟨text.takeWhile isPadding, sign, body, (text.dropWhile isPadding).rtakeWhile isPadding,
      factor, digits, ?_, fun _ hc => List.mem_takeWhile_imp hc,
      fun _ hc => List.mem_rtakeWhile_imp hc, hsign, hspells, hlength, hvalue⟩
    rw [← List.append_assoc sign, ← hsplit, List.rdropWhile_append_rtakeWhile,
      List.takeWhile_append_dropWhile]
  · rintro ⟨left, sign, body, right, factor, digits, rfl, hleft, hright, hsign, hspells, hlength,
      hvalue⟩
    refine ⟨sign, body, factor, digits, ?_, hsign, hspells, hlength, hvalue⟩
    exact dropWhile_isPadding_core hleft hright hsign hspells

theorem Denotes.isBlank_eq_false {text : Text} {n : Int} (h : Denotes text n) :
    text.isBlank = false := by
  obtain ⟨left, sign, body, right, factor, digits, rfl, -, -, -, hspells, -⟩ := h
  obtain ⟨c, hhead, hdigit⟩ := hspells.exists_head
  obtain ⟨rest, rfl⟩ := List.head?_eq_some_iff.mp hhead
  rw [Text.isBlank, List.all_eq_false]
  exact ⟨c, by simp, by simp [CodePoint.isBlank_eq_false_of_isDigit hdigit]⟩

def asciiBlanks : Text :=
  " \t\n\x0b\x0c\r"

theorem Denotes.pad {left text right : Text} {n : Int} (h : Denotes text n)
    (hleft : ∀ c ∈ left, c ∈ asciiBlanks) (hright : ∀ c ∈ right, c ∈ asciiBlanks) :
    Denotes (left ++ (text ++ right)) n := by
  have hpadding : ∀ c ∈ asciiBlanks, isPadding c = true := by
    decide
  obtain ⟨front, sign, body, back, factor, digits, rfl, hfront, hback, hnumeral⟩ := h
  refine ⟨left ++ front, sign, body, back ++ right, factor, digits, by simp, ?_, ?_, hnumeral⟩
  · exact List.forall_mem_append.mpr ⟨fun c hc => hpadding c (hleft c hc), hfront⟩
  · exact List.forall_mem_append.mpr ⟨hback, fun c hc => hpadding c (hright c hc)⟩

end Numeral

end SnippetReview
