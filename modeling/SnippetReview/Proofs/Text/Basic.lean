import SnippetReview.Text.Basic

/-!
Code points by their numbers, the texts of literals, and places in a text.
-/

set_option autoImplicit false

namespace SnippetReview

namespace CodePoint

theorem ne_of_value_ne {c d : CodePoint} (h : c.value ≠ d.value) : c ≠ d :=
  fun he => h (congrArg value he)

theorem ofNat?_value (c : CodePoint) : ofNat? c.value = some c := by
  simp [ofNat?, c.inRange]

@[simp] theorem ofChar_value (c : Char) : (ofChar c).value = c.toNat := rfl

theorem ofChar_injective : Function.Injective ofChar := fun _ _ h =>
  Char.toNat_inj.mp (congrArg value h)

end CodePoint

namespace Text

@[simp] theorem ofString_eq_nil_iff {literal : String} :
    ofString literal = [] ↔ literal = "" := by
  simp [ofString]

theorem drop_eq_cons {text : Text} {k : Nat} {c : CodePoint} (h : text[k]? = some c) :
    text.drop k = c :: text.drop (k + 1) := by
  obtain ⟨hk, rfl⟩ := List.getElem?_eq_some_iff.mp h
  exact List.drop_eq_getElem_cons hk

theorem getElem?_length_add (front back : Text) (k : Nat) :
    (front ++ back)[front.length + k]? = back[k]? := by
  rw [List.getElem?_append_right (Nat.le_add_right ..), Nat.add_sub_cancel_left]

end Text

end SnippetReview
