import SnippetReview.Json.Basic
import Mathlib.Data.List.Forall2
import Mathlib.Data.List.Nodup
import Mathlib.Data.Option.Basic

/-!
Objects as dictionaries: a name stands for at most one value, and two objects are the same if every
name stands for the same in both, whatever order their members have.
-/

set_option autoImplicit false

namespace SnippetReview.Json

/-- Equality of values as lists and dictionaries. -/
inductive SameAs : Json → Json → Prop
  | null : SameAs null null
  | bool (value : Bool) : SameAs (bool value) (bool value)
  | int (value : Int) : SameAs (int value) (int value)
  | real (written : Text) : SameAs (real written) (real written)
  | str (value : Text) : SameAs (str value) (str value)
  | arr {items others : List Json} (h : List.Forall₂ SameAs items others) :
    SameAs (arr items) (arr others)
  | obj {members others : List (Text × Json)}
    (h : ∀ name, Option.Rel SameAs ((obj members).member? name) ((obj others).member? name)) :
    SameAs (obj members) (obj others)

def bool? : Json → Option Bool
  | bool value => some value
  | _ => none

def int? : Json → Option Int
  | int value => some value
  | _ => none

def listOf? {α : Type} (read? : Json → Option α) : Json → Option (List α)
  | arr items => items.mapM read?
  | _ => none

theorem int?_int (value : Int) : (int value).int? = some value := rfl

theorem str?_str (value : Text) : (str value).str? = some value := rfl

private theorem mem_of_member? {members : List (Text × Json)} {name : Text} {value : Json}
    (h : (obj members).member? name = some value) : (name, value) ∈ members := by
  obtain ⟨front, back, hmembers, -⟩ := List.lookup_eq_some_iff.mp h
  rw [← List.mem_reverse, hmembers]
  simp

mutual

private theorem SameAs.refl : ∀ value : Json, value.SameAs value
  | null => .null
  | bool value => .bool value
  | int value => .int value
  | real written => .real written
  | str value => .str value
  | arr items => .arr (forall₂_sameAs_refl items)
  | obj members => .obj fun name => by
    have hmembers := sameAs_refl_of_mem members
    cases hvalue : (obj members).member? name with
    | none => exact .none
    | some value => exact .some (hmembers _ (mem_of_member? hvalue))

private theorem forall₂_sameAs_refl : ∀ items : List Json, List.Forall₂ SameAs items items
  | [] => .nil
  | item :: rest => .cons (SameAs.refl item) (forall₂_sameAs_refl rest)

private theorem sameAs_refl_of_mem : ∀ members : List (Text × Json), ∀ member ∈ members,
    member.2.SameAs member.2
  | [] => by simp
  | (name, value) :: rest => by
    rw [List.forall_mem_cons]
    exact ⟨SameAs.refl value, sameAs_refl_of_mem rest⟩

end

section Rel

variable {α β : Type} {R : α → α → Prop} {a b : Option α} {f : α → Option β}

private theorem bind_eq_of_rel (hf : ∀ {x y : α}, R x y → f x = f y) (h : Option.Rel R a b) :
    a.bind f = b.bind f := by
  cases h with
  | some hxy => exact hf hxy
  | none => rfl

private theorem mapM_eq_of_rel (hf : ∀ {x y : α}, R x y → f x = f y) (h : Option.Rel R a b) :
    a.mapM f = b.mapM f := by
  cases h with
  | some hxy => rw [Option.mapM_some, Option.mapM_some, hf hxy]
  | none => rfl

end Rel

namespace SameAs

variable {value other : Json}

theorem bool?_eq (h : value.SameAs other) : value.bool? = other.bool? := by
  cases h <;> rfl

theorem int?_eq (h : value.SameAs other) : value.int? = other.int? := by
  cases h <;> rfl

theorem str?_eq (h : value.SameAs other) : value.str? = other.str? := by
  cases h <;> rfl

private theorem rel_member? (h : value.SameAs other) (name : Text) :
    Option.Rel SameAs (value.member? name) (other.member? name) := by
  cases h with
  | obj h => exact h name
  | _ => exact .none

section Read

variable {α : Type} {read? : Json → Option α}
  (hread : ∀ {value other : Json}, value.SameAs other → read? value = read? other)

include hread

theorem bind_member?_eq (h : value.SameAs other) (name : Text) :
    (value.member? name).bind read? = (other.member? name).bind read? :=
  bind_eq_of_rel hread (h.rel_member? name)

theorem mapM_member?_eq (h : value.SameAs other) (name : Text) :
    (value.member? name).mapM read? = (other.member? name).mapM read? :=
  mapM_eq_of_rel hread (h.rel_member? name)

theorem listOf?_eq (h : value.SameAs other) : value.listOf? read? = other.listOf? read? := by
  cases h with
  | arr hitems =>
    rw [listOf?, listOf?]
    induction hitems with
    | nil => rfl
    | cons hitem hrest ih => rw [List.mapM_cons, List.mapM_cons, hread hitem, ih]
  | _ => rfl

end Read

end SameAs

section SetMembers

variable {fields : List (Text × Option Json)}

def setMembers (fields : List (Text × Option Json)) : List (Text × Json) :=
  fields.flatMap fun field => optionalMember field.1 field.2

private theorem mem_setMembers {name : Text} {value : Json} :
    (name, value) ∈ setMembers fields ↔ (name, some value) ∈ fields := by
  simp only [setMembers, optionalMember, member, List.mem_flatMap, List.mem_map, Option.mem_toList,
    Prod.mk.injEq]
  constructor
  · rintro ⟨⟨other, held⟩, hfield, stored, rfl, rfl, rfl⟩
    exact hfield
  · intro hfield
    exact ⟨_, hfield, value, rfl, rfl, rfl⟩

private theorem map_fst_setMembers_sublist (fields : List (Text × Option Json)) :
    ((setMembers fields).map Prod.fst).Sublist (fields.map Prod.fst) := by
  induction fields with
  | nil => exact .slnil
  | cons field rest ih =>
    obtain ⟨name, held⟩ := field
    rw [setMembers, List.flatMap_cons, List.map_append]
    cases held with
    | none => exact ih.cons name
    | some value => exact ih.cons_cons name

private theorem lookup_eq_some_iff_mem {α : Type} {entries : List (Text × α)}
    (h : (entries.map Prod.fst).Nodup) {name : Text} {value : α} :
    entries.lookup name = some value ↔ (name, value) ∈ entries := by
  induction entries with
  | nil => simp
  | cons entry rest ih =>
    obtain ⟨other, held⟩ := entry
    rw [List.map_cons, List.nodup_cons] at h
    rw [List.mem_cons, Prod.mk.injEq]
    by_cases hname : name = other
    · subst hname
      have hrest : (name, value) ∉ rest := fun hmem => h.1 (List.mem_map.mpr ⟨_, hmem, rfl⟩)
      simp [hrest, eq_comm]
    · rw [List.lookup_cons, beq_eq_false_iff_ne.mpr hname, ih h.2]
      simp [hname]

/-- Where the fields have different names, each name stands for what its field is set to. -/
theorem member?_setMembers (h : (fields.map Prod.fst).Nodup) (name : Text) :
    (obj (setMembers fields)).member? name = (fields.lookup name).join := by
  have hmembers : ((setMembers fields).reverse.map Prod.fst).Nodup := by
    rw [List.map_reverse, List.nodup_reverse]
    exact h.sublist (map_fst_setMembers_sublist fields)
  ext value
  rw [member?, lookup_eq_some_iff_mem hmembers, List.mem_reverse, mem_setMembers,
    Option.join_eq_some_iff, lookup_eq_some_iff_mem h]

theorem exists_member?_setMembers (h : (fields.map Prod.fst).Nodup) (name : Text) :
    (∃ value, (obj (setMembers fields)).member? name = some value) ↔
      ∃ value, (name, some value) ∈ fields := by
  simp only [member?_setMembers h, Option.join_eq_some_iff, lookup_eq_some_iff_mem h]

end SetMembers

theorem exists_some_eq_map {α : Type} {write : α → Json} {a? : Option α} :
    (∃ value, some value = a?.map write) ↔ a? ≠ none := by
  cases a? <;> simp

section Write

variable {α : Type} {write : α → Json} {read? : Json → Option α}
  (hread : ∀ a, read? (write a) = some a)

include hread

theorem mapM_map_option (a? : Option α) : (a?.map write).mapM read? = some a? := by
  cases a? with
  | none => rfl
  | some a => rw [Option.map_some, Option.mapM_some, hread]; rfl

theorem listOf?_map (items : List α) : (arr (items.map write)).listOf? read? = some items := by
  rw [listOf?]
  induction items with
  | nil => rfl
  | cons item rest ih => rw [List.map_cons, List.mapM_cons, hread, ih]; rfl

end Write

/-- Values are written as dictionaries without loss: what is read back is what was written, and
only equal values have the same dictionary. -/
structure IsLossless {α : Type} (write : α → Json) (read? : Json → Option α) : Prop where
  read?_write : ∀ a, read? (write a) = some a
  sameAs_iff : ∀ a b, (write a).SameAs (write b) ↔ a = b

/-- It is enough to read back, with a reader that looks at nothing but the dictionary. -/
theorem IsLossless.of_sameAs {α : Type} {write : α → Json} {read? : Json → Option α}
    (hwrite : ∀ a, read? (write a) = some a)
    (hread : ∀ {value other : Json}, value.SameAs other → read? value = read? other) :
    IsLossless write read? where
  read?_write := hwrite
  sameAs_iff a b := by
    constructor
    · intro hsame
      have hab := hread hsame
      rw [hwrite, hwrite] at hab
      exact Option.some.inj hab
    · rintro rfl
      exact .refl _

end SnippetReview.Json
