import Mathlib.Data.List.Basic
import SnippetReview.Proofs.Settings.Assignments
import SnippetReview.Proofs.Text.Integer
import SnippetReview.Settings.Basic

/-!
Loading as a whole. The environment and the file are laid over one another, and only the values that
names have then count: which variable is at fault, and which integers the others hold.
-/

set_option autoImplicit false

namespace SnippetReview.Settings

open Assignments (Assignment)

def GivesLast (assignments : List Assignment) (name value : Text) : Prop :=
  ∃ before after, assignments = before ++ (name, some value) :: after ∧
    ∀ assignment ∈ after, assignment.1 ≠ name

/-- A name has its value of the environment if it is set there, and else the last one that it is
assigned. -/
structure IsMerged (environment : Environment) (assignments : List Assignment)
    (merged : Environment) : Prop where
  set : ∀ name value, environment.lookup name = some value → merged.lookup name = some value
  unset : ∀ name value, environment.lookup name = none →
    (merged.lookup name = some value ↔ GivesLast assignments name value)

/-- The variable is set to something visible that is no numeral. -/
def IsInvalid (environment : Environment) (name value : Text) : Prop :=
  environment.lookup name = some value ∧ value.isBlank = false ∧ ∀ n, ¬ Numeral.Denotes value n

inductive IsFirstInvalid (environment : Environment) : SettingsError → Prop where
  | tokenLifetime {value : Text} (h : IsInvalid environment "TOKEN_TTL_SECONDS" value) :
      IsFirstInvalid environment ⟨"TOKEN_TTL_SECONDS", value⟩
  | port {value : Text} (hfirst : ∀ value, ¬ IsInvalid environment "TOKEN_TTL_SECONDS" value)
      (h : IsInvalid environment "PORT" value) : IsFirstInvalid environment ⟨"PORT", value⟩

/-- The setting is the integer that the variable's value denotes, also with blanks of ASCII around
it, or the default one if the variable is not set or blank. -/
structure HoldsInteger (environment : Environment) (name : Text) (default setting : Int) : Prop where
  denoted : ∀ left numeral right n, Numeral.Denotes numeral n →
    (∀ c ∈ left, c ∈ Numeral.asciiBlanks) → (∀ c ∈ right, c ∈ Numeral.asciiBlanks) →
    environment.lookup name = some (left ++ (numeral ++ right)) → setting = n
  blank : ∀ value, environment.lookup name = some value → value.isBlank = true → setting = default
  unset : environment.lookup name = none → setting = default

structure IsLoaded (merged : Environment) (outcome : Except SettingsError Settings) : Prop where
  eq_alone : outcome = load merged none
  error_iff : ∀ error, outcome = .error error ↔ IsFirstInvalid merged error
  message : ∀ error, outcome = .error error →
    error.message = Text.ofString "Environment variable " ++ error.name ++
      Text.ofString " must be an integer, got " ++ Quoted.encode error.value ++ Text.ofString "."
  tokenLifetime : ∀ settings, outcome = .ok settings →
    HoldsInteger merged "TOKEN_TTL_SECONDS" 604800 settings.tokenLifetime
  port : ∀ settings, outcome = .ok settings → HoldsInteger merged "PORT" 8000 settings.port

section Merge

variable {environment merged other : Environment} {assignments : List Assignment}

private theorem lookup_filterMap_of_name (value? : Text → Option Text) (name : Text) :
    (assignments.filterMap fun entry => (value? entry.1).map fun value => (entry.1, value)).lookup
      name = if name ∈ assignments.map Prod.fst then value? name else none := by
  induction assignments with
  | nil => rfl
  | cons entry assignments ih =>
    obtain ⟨key, -⟩ := entry
    rw [List.filterMap_cons, List.map_cons]
    cases hvalue : value? key with
    | none =>
      simp only [Option.map_none, List.mem_cons]
      rw [ih]
      by_cases hname : name = key
      · rw [hname, hvalue, ite_self, ite_self]
      · simp only [hname, false_or]
    | some value =>
      simp only [Option.map_some, List.mem_cons, List.lookup_cons]
      by_cases hname : name = key
      · rw [hname, beq_self_eq_true, if_pos (.inl rfl), hvalue]
      · rw [beq_eq_false_iff_ne.mpr hname, ih]
        simp only [hname, false_or]

private theorem lookup_ofAssignments (assignments : List Assignment) (name : Text) :
    (ofAssignments assignments).lookup name = (assignments.reverse.lookup name).getD none := by
  rw [ofAssignments, lookup_filterMap_of_name
    fun name => (assignments.reverse.lookup name).getD none]
  split
  · rfl
  · next habsent =>
    have hnone : assignments.reverse.lookup name = none := by
      rw [List.lookup_eq_none_iff]
      intro entry hentry
      rw [bne_iff_ne]
      rintro rfl
      exact habsent (List.mem_map_of_mem hentry)
    rw [hnone, Option.getD_none]

private theorem lookup_ofAssignments_eq_some_iff {name value : Text} :
    (ofAssignments assignments).lookup name = some value ↔
      GivesLast assignments name value := by
  have hlast : (assignments.reverse.lookup name).getD none = some value ↔
      assignments.reverse.lookup name = some (some value) := by
    cases assignments.reverse.lookup name <;> simp
  rw [lookup_ofAssignments, hlast, List.lookup_eq_some_iff]
  constructor
  · rintro ⟨after, before, hsplit, hafter⟩
    refine ⟨before.reverse, after.reverse, ?_, ?_⟩
    · rw [← List.reverse_reverse assignments, hsplit]
      simp
    · intro assignment hmem
      have := hafter assignment (List.mem_reverse.mp hmem)
      exact fun heq => by simp [heq] at this
  · rintro ⟨before, after, rfl, hafter⟩
    refine ⟨after.reverse, before.reverse, by simp, ?_⟩
    intro assignment hmem
    have := hafter assignment (List.mem_reverse.mp hmem)
    simpa using fun heq => this heq.symm

private theorem isMerged_merge (environment : Environment) (file : Text) :
    IsMerged environment (Assignments.read file) (merge environment (some file)) where
  set name value hset := by
    rw [merge, List.lookup_append, hset, Option.some_or]
  unset name value hunset := by
    rw [merge, List.lookup_append, hunset, Option.none_or]
    exact lookup_ofAssignments_eq_some_iff

private theorem IsMerged.lookup_eq (h : IsMerged environment assignments merged)
    (h' : IsMerged environment assignments other) (name : Text) :
    merged.lookup name = other.lookup name := by
  cases hset : environment.lookup name with
  | some value => rw [h.set name value hset, h'.set name value hset]
  | none =>
    refine Option.ext fun value => ?_
    rw [h.unset name value hset, h'.unset name value hset]

private theorem ofEnvironment_congr (h : ∀ name, merged.lookup name = other.lookup name) :
    ofEnvironment merged = ofEnvironment other := by
  simp only [ofEnvironment, integer, list, h]

private theorem load_none (merged : Environment) : load merged none = ofEnvironment merged := by
  rw [load, merge, Option.map_none, Option.getD_none, List.append_nil]

end Merge

section Integer

variable {environment : Environment} {name : Text} {default : Int}

private theorem integer_of_unset (h : environment.lookup name = none) :
    integer environment name default = .ok default := by
  rw [integer, h]

private theorem integer_of_blank {value : Text} (h : environment.lookup name = some value)
    (hblank : value.isBlank = true) : integer environment name default = .ok default := by
  rw [integer, h]
  exact if_pos hblank

private theorem integer_of_denotes {value : Text} {n : Int}
    (h : environment.lookup name = some value)
    (hn : Numeral.Denotes value n) : integer environment name default = .ok n := by
  rw [integer, h]
  simp [hn.isBlank_eq_false, Numeral.int?_eq_some_iff.mpr hn]

private theorem integer_of_isInvalid {value : Text} (h : IsInvalid environment name value) :
    integer environment name default = .error ⟨name, value⟩ := by
  obtain ⟨hset, hvisible, hnumeral⟩ := h
  have hunread : Numeral.int? value = none := by
    rw [Option.eq_none_iff_forall_ne_some]
    intro n hn
    exact hnumeral n (Numeral.int?_eq_some_iff.mp hn)
  rw [integer, hset]
  simp [hvisible, hunread]

private theorem IsInvalid.eq {value other : Text} (h : IsInvalid environment name value)
    (h' : IsInvalid environment name other) : value = other := by
  simpa [h.1] using h'.1

private theorem integer_cases (environment : Environment) (name : Text) (default : Int) :
    (∃ n, integer environment name default = .ok n ∧
      HoldsInteger environment name default n ∧ ∀ value, ¬ IsInvalid environment name value) ∨
    ∃ value, integer environment name default = .error ⟨name, value⟩ ∧
      IsInvalid environment name value := by
  by_cases hinvalid : ∃ value, IsInvalid environment name value
  · obtain ⟨value, hvalue⟩ := hinvalid
    exact .inr ⟨value, integer_of_isInvalid hvalue, hvalue⟩
  rw [not_exists] at hinvalid
  obtain ⟨n, hn⟩ : ∃ n, integer environment name default = .ok n := by
    cases hset : environment.lookup name with
    | none => exact ⟨default, integer_of_unset hset⟩
    | some value =>
      by_cases hblank : value.isBlank = true
      · exact ⟨default, integer_of_blank hset hblank⟩
      · have hnumeral : ∃ n, Numeral.Denotes value n := by
          by_contra hnone
          exact hinvalid value ⟨hset, Bool.eq_false_iff.mpr hblank, not_exists.mp hnone⟩
        obtain ⟨n, hn⟩ := hnumeral
        exact ⟨n, integer_of_denotes hset hn⟩
  refine .inl ⟨n, hn, ⟨?_, ?_, ?_⟩, hinvalid⟩
  · intro left numeral right m hm hleft hright hset
    rw [integer_of_denotes hset (hm.pad hleft hright)] at hn
    exact (Except.ok.inj hn).symm
  · intro value hset hblank
    rw [integer_of_blank hset hblank] at hn
    exact (Except.ok.inj hn).symm
  · intro hset
    rw [integer_of_unset hset] at hn
    exact (Except.ok.inj hn).symm

end Integer

section Outcome

variable {environment merged : Environment} {file : Text}

private theorem IsFirstInvalid.unique {error other : SettingsError}
    (h : IsFirstInvalid environment error)
    (h' : IsFirstInvalid environment other) : error = other := by
  cases h with
  | tokenLifetime h =>
    cases h' with
    | tokenLifetime h' => rw [h.eq h']
    | port hfirst _ => exact absurd h (hfirst _)
  | port hfirst h =>
    cases h' with
    | tokenLifetime h' => exact absurd h' (hfirst _)
    | port _ h' => rw [h.eq h']

/-- The settings hold their integers, or the first invalid variable is the error. -/
private theorem ofEnvironment_cases (environment : Environment) :
    (∃ settings, ofEnvironment environment = .ok settings ∧
      HoldsInteger environment "TOKEN_TTL_SECONDS" 604800 settings.tokenLifetime ∧
      HoldsInteger environment "PORT" 8000 settings.port ∧
      ∀ error, ¬ IsFirstInvalid environment error) ∨
    ∃ error, ofEnvironment environment = .error error ∧ IsFirstInvalid environment error := by
  rcases integer_cases environment "TOKEN_TTL_SECONDS" default.tokenLifetime with
    ⟨tokenLifetime, htokens, hlifetime, hfirst⟩ | ⟨value, htokens, hinvalid⟩
  · rcases integer_cases environment "PORT" default.port with
      ⟨port, hport, hnumber, hsecond⟩ | ⟨value, hport, hinvalid⟩
    · obtain ⟨settings, hsettings, rfl, rfl⟩ : ∃ settings, ofEnvironment environment = .ok settings ∧
          settings.tokenLifetime = tokenLifetime ∧ settings.port = port := by
        rw [ofEnvironment, htokens, hport]
        exact ⟨_, rfl, rfl, rfl⟩
      refine .inl ⟨settings, hsettings, hlifetime, hnumber, ?_⟩
      rintro _ (hinvalid | ⟨-, hinvalid⟩)
      · exact hfirst _ hinvalid
      · exact hsecond _ hinvalid
    · refine .inr ⟨⟨"PORT", value⟩, ?_, .port hfirst hinvalid⟩
      rw [ofEnvironment, htokens, hport]
      rfl
  · refine .inr ⟨⟨"TOKEN_TTL_SECONDS", value⟩, ?_, .tokenLifetime hinvalid⟩
    rw [ofEnvironment, htokens]
    rfl

private theorem isLoaded_ofEnvironment (merged : Environment) :
    IsLoaded merged (ofEnvironment merged) := by
  have halone := (load_none merged).symm
  rcases ofEnvironment_cases merged with
    ⟨settings, hsettings, htokens, hport, hvalid⟩ | ⟨error, herror, hinvalid⟩
  · rw [hsettings] at halone ⊢
    constructor
    case eq_alone => exact halone
    case error_iff =>
      intro error
      constructor
      · intro h
        cases h
      · intro h
        exact absurd h (hvalid error)
    case message =>
      intro error h
      cases h
    case tokenLifetime =>
      rintro _ ⟨⟩
      exact htokens
    case port =>
      rintro _ ⟨⟩
      exact hport
  · rw [herror] at halone ⊢
    constructor
    case eq_alone => exact halone
    case error_iff =>
      intro other
      constructor
      · rintro ⟨⟩
        exact hinvalid
      · intro hother
        rw [hinvalid.unique hother]
    case message => exact fun _ _ => rfl
    all_goals
      intro settings h
      cases h

/-- Loading gives what the merged environment alone gives: the first error, or integers that are
exactly those written. This holds whatever the file is read as. A file of plain lines assigns what
its lines say; other lines may be read differently elsewhere, since references to other names are
left as they stand. -/
theorem isLoaded_load (h : IsMerged environment (Assignments.read file) merged) :
    IsLoaded merged (load environment (some file)) ∧
      ∀ lines, Assignments.Writes file lines →
        Assignments.read file = lines.map fun line => (line.1, some line.2) := by
  have hsame : load environment (some file) = ofEnvironment merged :=
    ofEnvironment_congr ((isMerged_merge environment file).lookup_eq h)
  rw [hsame]
  exact ⟨isLoaded_ofEnvironment merged, fun _ hwrites => Assignments.read_of_writes hwrites⟩

/-- An empty variable keeps its default against the file, and of two lines of the file the last one
counts. -/
theorem isLoaded_load_of_empty_variable :
    let environment : Environment := [("PORT", "")]
    let file := Text.ofString "PORT=x\nTOKEN_TTL_SECONDS=1\r\nTOKEN_TTL_SECONDS=-१_2"
    let lines : List (Text × Text) :=
      [("PORT", "x"), ("TOKEN_TTL_SECONDS", "1"), ("TOKEN_TTL_SECONDS", "-१_2")]
    let merged : Environment := [("PORT", ""), ("TOKEN_TTL_SECONDS", "-१_2"),
      ("TOKEN_TTL_SECONDS", "-१_2"), ("PORT", "x")]
    Assignments.Writes file lines ∧
      IsMerged environment (lines.map fun line => (line.1, some line.2)) merged ∧
      ∃ settings, load environment (some file) = .ok settings ∧ settings.tokenLifetime = -12 ∧
        settings.port = 8000 := by
  intro environment file lines merged
  have hwrites : Assignments.Writes file lines := by
    have hfile : file = Text.ofString "PORT" ++ CodePoint.ofChar '=' :: (Text.ofString "x" ++
        (Text.ofString "\n" ++ (Text.ofString "TOKEN_TTL_SECONDS" ++ CodePoint.ofChar '=' ::
          (Text.ofString "1" ++ (Text.ofString "\r\n" ++ (Text.ofString "TOKEN_TTL_SECONDS" ++
            CodePoint.ofChar '=' :: Text.ofString "-१_2")))))) := by
      decide +kernel
    rw [hfile]
    exact
      .line (.of_visible (by decide) (by decide) (by decide) (by decide) (by decide)) (by decide)
        (.line (.of_visible (by decide) (by decide) (by decide) (by decide) (by decide)) (by decide)
          (.last (.of_visible (by decide) (by decide) (by decide) (by decide) (by decide))))
  have hread : Assignments.read file = lines.map fun line => (line.1, some line.2) :=
    (isLoaded_load (isMerged_merge environment file)).2 lines hwrites
  have hmerge : merge environment (some file) = merged := by
    decide +kernel
  have hmerged : IsMerged environment (Assignments.read file) merged :=
    hmerge ▸ isMerged_merge environment file
  obtain ⟨hloaded, -⟩ := isLoaded_load hmerged
  have htokens : merged.lookup (Text.ofString "TOKEN_TTL_SECONDS") = some (Text.ofString "-१_2") := by
    decide
  have hport : merged.lookup (Text.ofString "PORT") = some [] := by
    decide
  have hnumeral : Numeral.Denotes "-१_2" (-12) :=
    Numeral.int?_eq_some_iff.mp (by decide +kernel)
  refine ⟨hwrites, hread ▸ hmerged, ?_⟩
  cases houtcome : load environment (some file) with
  | error error =>
    cases (hloaded.error_iff error).mp houtcome with
    | tokenLifetime h =>
      cases htokens.symm.trans h.1
      exact absurd hnumeral (h.2.2 _)
    | port _ h =>
      cases hport.symm.trans h.1
      cases h.2.1
  | ok settings =>
    refine ⟨settings, rfl, ?_, ?_⟩
    · exact (hloaded.tokenLifetime settings houtcome).denoted [] _ [] _ hnumeral (by simp) (by simp)
        htokens
    · exact (hloaded.port settings houtcome).blank [] hport rfl

end Outcome

end SnippetReview.Settings
