import Mathlib.Data.Finset.Max
import Mathlib.Data.String.Basic
import ShaderAnalysis.Proofs.Text.Trim
import ShaderAnalysis.Settings.Basic

/-!
# Texts and mappings in normal form

Tidying a text twice is tidying it once. For mappings this holds only as far as no blank is left at the end of a
name: the slashes at the end of a name are taken away after the blanks, so a blank in front of them stays
(`AreTidy.tidyMappings_eq_self_iff`).
-/

namespace ShaderAnalysis.Settings

open Text (IsTrimmed isBlank)

/-! ## Texts -/

/-- Trimmed, and not empty. -/
structure IsTidy (s : String) : Prop where
  nonempty : s ≠ ""
  trimmed : IsTrimmed s.toList

theorem isTidy_of_tidyText {s t : String} (h : tidyText s = some t) : IsTidy t := by
  simp only [tidyText] at h
  split at h
  · cases h
  · rename_i nonempty
    cases h
    constructor
    · simpa using nonempty
    · rw [Text.trimmed, String.toList_ofList]
      exact Text.isTrimmed_trim _

theorem IsTidy.tidyText_eq_some {s : String} (h : IsTidy s) : tidyText s = some s := by
  have same : Text.trimmed s = s := by rw [Text.trimmed, h.trimmed.trim, String.ofList_toList]
  have nonempty := h.nonempty
  simp [tidyText, same, nonempty]

theorem isTidy_of_mem_filterMap {texts : List String} {s : String} (h : s ∈ texts.filterMap tidyText) : IsTidy s := by
  obtain ⟨t, -, tidied⟩ := List.mem_filterMap.1 h
  exact isTidy_of_tidyText tidied

theorem filterMap_eq_self {α : Type} {f : α → Option α} {items : List α} (h : ∀ a ∈ items, f a = some a) :
    items.filterMap f = items := by
  rw [List.filterMap_congr h]
  exact List.filterMap_some

/-! ## Items without later duplicates -/

section FirstOfEach

variable {α β : Type} [BEq β] (key : α → β)

theorem firstOfEach_sublist (items : List α) : (firstOfEach key items).Sublist items := by
  induction items with
  | nil => exact .slnil
  | cons a rest ih => exact (List.filter_sublist.trans ih).cons_cons a

variable [LawfulBEq β]

theorem nodup_map_firstOfEach (items : List α) : ((firstOfEach key items).map key).Nodup := by
  induction items with
  | nil => exact List.nodup_nil
  | cons a rest ih =>
    rw [firstOfEach, List.map_cons, List.nodup_cons]
    constructor
    · intro again
      obtain ⟨b, member, same⟩ := List.mem_map.1 again
      simp [same] at member
    · exact ih.sublist (List.filter_sublist.map key)

theorem firstOfEach_eq_self {items : List α} (distinct : (items.map key).Nodup) : firstOfEach key items = items := by
  induction items with
  | nil => rfl
  | cons a rest ih =>
    rw [List.map_cons, List.nodup_cons] at distinct
    rw [firstOfEach, ih distinct.2, List.filter_eq_self.2]
    intro b member
    have other : key b ≠ key a := by
      intro same
      exact distinct.1 (List.mem_map.2 ⟨b, member, same⟩)
    simpa using other

end FirstOfEach

/-! ## Mappings -/

/-- What each mapping in normal form is like: nothing is said about a blank at the end of the name. -/
structure IsTidyMapping (m : String × String) : Prop where
  name : m.1 ≠ ""
  first : ∀ c ∈ m.1.toList.head?, isBlank c = false
  last : m.1.toList.getLast? ≠ some '/'
  directory : IsTidy m.2

/-- No blank is left at the end of a name when the blanks around it and then the slashes at its end are gone. -/
def IsClean (name : String) : Prop :=
  IsTrimmed (Text.trimEndWhile (· == '/') (Text.trim name.toList))

theorem tidyMapping_eq_some {m n : String × String} (h : tidyMapping m = some n) :
    n.1.toList = Text.trimEndWhile (· == '/') (Text.trim m.1.toList) ∧ n.1 ≠ "" ∧ tidyText m.2 = some n.2 := by
  simp only [tidyMapping, Option.bind_eq_bind, Option.bind_eq_some_iff, Option.pure_def, Option.some.injEq] at h
  obtain ⟨_, nonempty, directory, tidied, rfl⟩ := h
  refine ⟨String.toList_ofList, ?_, tidied⟩
  simpa [guard] using nonempty

theorem isTidyMapping_of_tidyMapping {m n : String × String} (h : tidyMapping m = some n) : IsTidyMapping n := by
  obtain ⟨name, nonempty, directory⟩ := tidyMapping_eq_some h
  refine ⟨nonempty, ?_, ?_, isTidy_of_tidyText directory⟩
  · intro c first
    have start : n.1.toList <+: Text.trim m.1.toList := by
      rw [name]
      exact Text.trimEndWhile_prefix _ _
    obtain ⟨rest, equal⟩ := start
    apply (Text.isTrimmed_trim m.1.toList).first c
    rw [← equal, List.head?_append, first]
    rfl
  · intro last
    rw [name] at last
    have := Text.getLast?_trimEndWhile last
    cases this

theorem IsTidyMapping.trimEndWhile_eq_self {m : String × String} (h : IsTidyMapping m) :
    Text.trimEndWhile (· == '/') m.1.toList = m.1.toList := by
  apply Text.trimEndWhile_eq_self
  intro c last
  have last' : m.1.toList.getLast? = some c := last
  have other : c ≠ '/' := by
    rintro rfl
    exact h.last last'
  simpa using other

theorem IsTidyMapping.tidyMapping_eq_self {m : String × String} (h : IsTidyMapping m)
    (trimmed : IsTrimmed m.1.toList) : tidyMapping m = some m := by
  have name : String.ofList (Text.trimEndWhile (· == '/') (Text.trim m.1.toList)) = m.1 := by
    rw [trimmed.trim, h.trimEndWhile_eq_self, String.ofList_toList]
  have nonempty := h.name
  simp [tidyMapping, name, nonempty, guard, h.directory.tidyText_eq_some]

/-- Tidying a mapping whose name is not trimmed makes the name shorter. -/
theorem length_name_tidyMapping_lt {m n : String × String} (h : tidyMapping m = some n)
    (untrimmed : ¬IsTrimmed m.1.toList) : n.1.length < m.1.length := by
  obtain ⟨name, -, -⟩ := tidyMapping_eq_some h
  have cut := (Text.trimEndWhile_prefix (· == '/') (Text.trim m.1.toList)).length_le
  have shorter := Text.length_trim_lt untrimmed
  rw [← String.length_toList, ← String.length_toList, name]
  omega

theorem IsTidyMapping.isClean {m : String × String} (h : IsTidyMapping m) (trimmed : IsTrimmed m.1.toList) :
    IsClean m.1 := by
  rw [IsClean, trimmed.trim, h.trimEndWhile_eq_self]
  exact trimmed

theorem isTrimmed_name_of_tidyMapping {m n : String × String} (h : tidyMapping m = some n) (clean : IsClean m.1) :
    IsTrimmed n.1.toList := by
  rw [(tidyMapping_eq_some h).1]
  exact clean

/-! ## The order of mappings -/

theorem mappingBefore_iff {a b : String × String} :
    mappingBefore a b = true ↔ b.1.utf8ByteSize < a.1.utf8ByteSize ∨
      a.1.utf8ByteSize = b.1.utf8ByteSize ∧ a.1 ≤ b.1 := by
  simp [mappingBefore, -String.lt_iff_ltb]

theorem mappingBefore_trans (a b c : String × String) (ab : mappingBefore a b = true) (bc : mappingBefore b c = true) :
    mappingBefore a c = true := by
  rw [mappingBefore_iff] at ab bc ⊢
  obtain longer | ⟨same, le⟩ := ab <;> obtain longer' | ⟨same', le'⟩ := bc
  · left; omega
  · left; omega
  · left; omega
  · right
    exact ⟨same.trans same', le_trans le le'⟩

theorem mappingBefore_total (a b : String × String) : (mappingBefore a b || mappingBefore b a) = true := by
  rw [Bool.or_eq_true, mappingBefore_iff, mappingBefore_iff]
  rcases Nat.lt_trichotomy a.1.utf8ByteSize b.1.utf8ByteSize with shorter | same | longer
  · exact .inr (.inl shorter)
  · rcases le_total a.1 b.1 with le | le
    · exact .inl (.inr ⟨same, le⟩)
    · exact .inr (.inr ⟨same.symm, le⟩)
  · exact .inl (.inl longer)

/-- Mappings in normal form, except for blanks at the ends of names. -/
structure AreTidy (mappings : List (String × String)) : Prop where
  each : ∀ m ∈ mappings, IsTidyMapping m
  distinct : (mappings.map (·.1)).Nodup
  ordered : mappings.Pairwise fun a b => mappingBefore a b = true

theorem exists_of_mem_tidyMappings {mappings : List (String × String)} {n : String × String}
    (h : n ∈ tidyMappings mappings) : ∃ m ∈ mappings, tidyMapping m = some n :=
  List.mem_filterMap.1 ((firstOfEach_sublist _ _).mem (List.mem_mergeSort.1 h))

theorem areTidy_tidyMappings (mappings : List (String × String)) : AreTidy (tidyMappings mappings) where
  each := by
    intro n member
    obtain ⟨m, -, tidied⟩ := exists_of_mem_tidyMappings member
    exact isTidyMapping_of_tidyMapping tidied
  distinct := by
    have sorted := (List.mergeSort_perm (firstOfEach (·.1) (mappings.filterMap tidyMapping)) mappingBefore).map (·.1)
    exact sorted.nodup_iff.2 (nodup_map_firstOfEach _ _)
  ordered := List.pairwise_mergeSort mappingBefore_trans mappingBefore_total _

/-- Tidying keeps tidy mappings exactly if no name has a blank at an end. -/
theorem AreTidy.tidyMappings_eq_self_iff {mappings : List (String × String)} (tidy : AreTidy mappings) :
    tidyMappings mappings = mappings ↔ ∀ m ∈ mappings, IsTrimmed m.1.toList := by
  constructor
  · intro fixed
    by_contra untrimmed
    push Not at untrimmed
    classical
    -- the longest of the names that are not trimmed would come from a longer one
    obtain ⟨m, member, blank⟩ := untrimmed
    obtain ⟨longest, found, longer⟩ :=
      (mappings.toFinset.filter fun m => ¬IsTrimmed m.1.toList).exists_max_image (·.1.length)
        ⟨m, by simp [member, blank]⟩
    obtain ⟨found, blank⟩ := Finset.mem_filter.1 found
    rw [List.mem_toFinset] at found
    rw [← fixed] at found
    obtain ⟨source, member, tidied⟩ := exists_of_mem_tidyMappings found
    by_cases trimmed : IsTrimmed source.1.toList
    · rw [(tidy.each source member).tidyMapping_eq_self trimmed] at tidied
      cases tidied
      exact blank trimmed
    · have shorter := length_name_tidyMapping_lt tidied trimmed
      have := longer source (by simp [member, trimmed])
      omega
  · intro trimmed
    have same : mappings.filterMap tidyMapping = mappings := by
      apply filterMap_eq_self
      intro m member
      exact (tidy.each m member).tidyMapping_eq_self (trimmed m member)
    rw [tidyMappings, same, firstOfEach_eq_self _ tidy.distinct, List.mergeSort_of_pairwise tidy.ordered]

end ShaderAnalysis.Settings
