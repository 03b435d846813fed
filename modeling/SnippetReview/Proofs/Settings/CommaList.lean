import SnippetReview.Proofs.Text.Lines
import SnippetReview.Settings.Basic

/-!
Lists in variables. Main statements: a text is read as a list of items exactly if it writes them
between commas, with blanks around the items and any number of blank pieces; and what is read is in a
form that is read back as it is.
-/

set_option autoImplicit false

namespace SnippetReview.Settings

open Text

/-- An item of a list: not empty, without a comma, and without blanks at either end. -/
structure IsItem (item : Text) : Prop where
  ne_nil : item ≠ []
  comma_not_mem : CodePoint.ofChar ',' ∉ item
  trim_eq : item.trim = item

/-- The pieces hold the items in order, each with blanks around it; all other pieces are blank. -/
inductive Holds : List Text → List Text → Prop where
  | nil : Holds [] []
  | blank {pieces items : List Text} {piece : Text} (hblank : piece.isBlank = true)
      (h : Holds pieces items) : Holds (piece :: pieces) items
  | item {pieces items : List Text} {left item right : Text} (hitem : IsItem item)
      (hleft : left.isBlank = true) (hright : right.isBlank = true) (h : Holds pieces items) :
      Holds ((left ++ (item ++ right)) :: pieces) (item :: items)

/-- The text is made of pieces with commas between them that hold the items. -/
def Writes (value : Text) (items : List Text) : Prop :=
  ∃ pieces, pieces ≠ [] ∧ value = join "," pieces ∧ Holds pieces items

section Pieces

variable {pieces items : List Text} {piece value : Text}

private theorem comma_not_mem_of_isBlank (h : piece.isBlank = true) :
    CodePoint.ofChar ',' ∉ piece := by
  intro hmem
  have hblank := List.all_eq_true.mp h _ hmem
  revert hblank
  decide

private theorem Holds.comma_not_mem (h : Holds pieces items) :
    ∀ piece ∈ pieces, CodePoint.ofChar ',' ∉ piece := by
  induction h with
  | nil => simp
  | blank hblank _ ih => exact List.forall_mem_cons.mpr ⟨comma_not_mem_of_isBlank hblank, ih⟩
  | item hitem hleft hright _ ih =>
    refine List.forall_mem_cons.mpr ⟨?_, ih⟩
    simp only [List.mem_append, not_or]
    exact ⟨comma_not_mem_of_isBlank hleft, hitem.comma_not_mem, comma_not_mem_of_isBlank hright⟩

private theorem Holds.isItem (h : Holds pieces items) : ∀ item ∈ items, IsItem item := by
  induction h with
  | nil => simp
  | blank _ _ ih => exact ih
  | item hitem _ _ _ ih => exact List.forall_mem_cons.mpr ⟨hitem, ih⟩

private theorem Holds.filter_map_trim (h : Holds pieces items) :
    (pieces.map trim).filter (!·.isEmpty) = items := by
  induction h with
  | nil => rfl
  | blank hblank _ ih => simp [trim_eq_nil_iff.mpr hblank, ih]
  | @item pieces items left item right hitem hleft hright _ ih =>
    have htrim : (left ++ (item ++ right)).trim = item := by
      rw [trim_padded (List.all_eq_true.mp hleft) (List.all_eq_true.mp hright), hitem.trim_eq]
    simp [htrim, hitem.ne_nil, ih]

private theorem holds_filter_map_trim (h : ∀ piece ∈ pieces, CodePoint.ofChar ',' ∉ piece) :
    Holds pieces ((pieces.map trim).filter (!·.isEmpty)) := by
  induction pieces with
  | nil => exact .nil
  | cons piece pieces ih =>
    rw [List.forall_mem_cons] at h
    by_cases hnil : piece.trim = []
    · simpa [hnil] using .blank (trim_eq_nil_iff.mp hnil) (ih h.2)
    · obtain ⟨left, right, hpiece, hleft, hright⟩ := exists_trim piece
      have hitem : IsItem piece.trim :=
        ⟨hnil, fun hmem => h.1 (mem_of_mem_trim hmem), trim_trim piece⟩
      have hholds := Holds.item hitem (List.all_eq_true.mpr hleft) (List.all_eq_true.mpr hright)
        (ih h.2)
      rw [← hpiece] at hholds
      simpa [hnil] using hholds

/-- A text is read as the items that it writes, and as no others. -/
private theorem commaList_eq_iff : commaList value = items ↔ Writes value items := by
  constructor
  · rintro rfl
    refine ⟨value.splitOn ',', ?_, ?_, holds_filter_map_trim fun piece => not_mem_of_mem_splitOn⟩
    · rw [splitOn_eq]
      exact List.splitOn_ne_nil _ value
    · rw [splitOn_eq]
      exact (List.intercalate_splitOn _).symm
  · rintro ⟨pieces, hne, rfl, h⟩
    have hpieces : (join "," pieces).splitOn ',' = pieces := by
      rw [splitOn_eq]
      exact List.splitOn_intercalate _ h.comma_not_mem hne
    rw [commaList, hpieces, h.filter_map_trim]

private theorem Writes.ne_nil (h : Writes value items) (hne : items ≠ []) : value ≠ [] := by
  rintro rfl
  exact hne (commaList_eq_iff.mpr h).symm

private theorem Writes.isItem (h : Writes value items) : ∀ item ∈ items, IsItem item := by
  obtain ⟨pieces, -, -, hholds⟩ := h
  exact hholds.isItem

private theorem holds_self (h : ∀ item ∈ items, IsItem item) : Holds items items := by
  induction items with
  | nil => exact .nil
  | cons item items ih =>
    rw [List.forall_mem_cons] at h
    have hholds : Holds (([] ++ (item ++ [])) :: items) (item :: items) :=
      .item h.1 rfl rfl (ih h.2)
    simpa using hholds

end Pieces

section List

variable {environment : Environment} {name value : Text} {default items : List Text}

private theorem list_eq_commaList (hset : environment.lookup name = some value) (hne : value ≠ []) :
    list environment name default = commaList value := by
  rw [list, hset]
  exact if_neg (by rwa [List.isEmpty_iff])

private theorem list_eq_of_writes (hset : environment.lookup name = some value) (hne : items ≠ [])
    (h : Writes value items) : list environment name default = items := by
  rw [list_eq_commaList hset (h.ne_nil hne), commaList_eq_iff.mpr h]

end List

/-- Items that are written in a variable, with any padding and any blank pieces, are what is read. What
is read from a variable that is not empty is a list of items, and if there are any, then these with
commas between them are read as the same list, whatever variable holds them. -/
theorem lists_have_normal_form :
    (∀ (environment : Environment) (name : Text) (default pieces items : List Text), items ≠ [] →
      Holds pieces items → environment.lookup name = some (join "," pieces) →
        list environment name default = items) ∧
    (∀ (environment : Environment) (name value : Text) (default : List Text), value ≠ [] →
      environment.lookup name = some value →
        Writes value (list environment name default) ∧
        (∀ item ∈ list environment name default, IsItem item) ∧
        (list environment name default ≠ [] → ∀ (other : Environment) (place : Text)
          (fallback : List Text),
          other.lookup place = some (join "," (list environment name default)) →
            list other place fallback = list environment name default)) := by
  constructor
  · intro environment name default pieces items hne hholds hset
    refine list_eq_of_writes hset hne ⟨pieces, ?_, rfl, hholds⟩
    rintro rfl
    cases hholds
    exact hne rfl
  · intro environment name value default hvalue hset
    rw [list_eq_commaList hset hvalue]
    have hwrites : Writes value (commaList value) := commaList_eq_iff.mp rfl
    refine ⟨hwrites, hwrites.isItem, fun hne other place fallback hother => ?_⟩
    exact list_eq_of_writes hother hne ⟨_, hne, rfl, holds_self hwrites.isItem⟩

/-- A blank inside of an item stays, and blanks of any script around items go. -/
theorem lists_have_normal_form_of_padded_origins :
    let pieces : List Text := ["", " http://a b", "\u3000", "\thttp://c\u00A0", ""]
    let items : List Text := ["http://a b", "http://c"]
    list [("CORS_ORIGINS", join "," pieces)] "CORS_ORIGINS" [] = items ∧
      list [("ORIGINS", join "," items)] "ORIGINS" ["http://d"] = items := by
  intro pieces items
  have hpieces : Holds pieces items := by
    have htrimmed : (pieces.map trim).filter (!·.isEmpty) = items := by
      decide +kernel
    rw [← htrimmed]
    exact holds_filter_map_trim (by decide +kernel)
  obtain ⟨hread, hnormal⟩ := lists_have_normal_form
  have hlist := hread [("CORS_ORIGINS", join "," pieces)] "CORS_ORIGINS" [] pieces items
    (by decide) hpieces rfl
  obtain ⟨-, -, hagain⟩ := hnormal [("CORS_ORIGINS", join "," pieces)] "CORS_ORIGINS"
    (join "," pieces) [] (by decide) rfl
  rw [hlist] at hagain
  exact ⟨hlist, hagain (by decide) [("ORIGINS", join "," items)] "ORIGINS" ["http://d"] rfl⟩

end SnippetReview.Settings
