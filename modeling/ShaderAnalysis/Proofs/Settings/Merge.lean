import Mathlib.Data.List.Induction
import ShaderAnalysis.Proofs.Settings.Tidy
import ShaderAnalysis.Settings.Payload

/-!
# Merged settings

All that a payload sets is one patch (`merge_eq`), so merging is patching and then normalising. Merged settings are
in normal form (`isNormal_merge`) except for one thing: a name of a mapping may have a blank at its end.
Normalising them again, merging what sets nothing and merging a payload twice change the settings exactly where
there is such a name.
-/

namespace ShaderAnalysis

namespace SettingsPatch

/-- A patch that sets nothing. -/
def nothing : SettingsPatch :=
  ⟨none, none, none, none, none, none, none, none, none⟩

/-- A patch and then another one. -/
def andThen (p q : SettingsPatch) : SettingsPatch where
  libraryPath := q.libraryPath.or p.libraryPath
  projectPath := q.projectPath.or p.projectPath
  mappings := q.mappings.or p.mappings
  enabled := q.enabled.or p.enabled
  tabSize := q.tabSize.or p.tabSize
  fallback := q.fallback.or p.fallback
  maxFiles := q.maxFiles.or p.maxFiles
  excludes := q.excludes.or p.excludes
  logLevel := q.logLevel.or p.logLevel

/-- All that a payload sets. -/
def ofPayload (payload : Json) : SettingsPatch :=
  ((Settings.candidates payload).filterMap ofJson?).foldl andThen nothing

end SettingsPatch

namespace Settings

@[simp] theorem apply_nothing (s : Settings) : s.apply .nothing = s := rfl

theorem apply_andThen (s : Settings) (p q : SettingsPatch) : s.apply (p.andThen q) = (s.apply p).apply q := by
  simp only [apply, SettingsPatch.andThen, Option.or_assoc, Option.getD_or]

theorem foldl_apply (s : Settings) (patches : List SettingsPatch) (p : SettingsPatch) :
    patches.foldl apply (s.apply p) = s.apply (patches.foldl SettingsPatch.andThen p) := by
  induction patches generalizing p with
  | nil => rfl
  | cons q rest ih => rw [List.foldl_cons, List.foldl_cons, ← apply_andThen, ih]

theorem merge_eq (s : Settings) (payload : Json) : s.merge payload = (s.apply (.ofPayload payload)).normalize := by
  rw [SettingsPatch.ofPayload, ← foldl_apply, apply_nothing, merge]

/-! ## Normal form -/

/-- Settings in normal form, except for blanks at the ends of names of mappings. -/
structure IsNormal (s : Settings) : Prop where
  libraryPath : ∀ path ∈ s.libraryPath, IsTidy path
  projectPath : ∀ path ∈ s.projectPath, IsTidy path
  mappings : AreTidy s.mappings
  tabSize : ∀ n ∈ s.formatting.tabSize, 1 ≤ n ∧ n ≤ 16
  maxFiles : 1 ≤ s.indexing.maxFiles ∧ s.indexing.maxFiles ≤ 20000
  excludes : ∀ path ∈ s.indexing.excludes, IsTidy path
  distinct : s.indexing.excludes.Nodup

/-- No name of a mapping has a blank at an end. -/
def HasTrimmedNames (s : Settings) : Prop :=
  ∀ m ∈ s.mappings, Text.IsTrimmed m.1.toList

theorem isNormal_default : default.IsNormal where
  libraryPath := nofun
  projectPath := nofun
  mappings := ⟨nofun, List.nodup_nil, List.Pairwise.nil⟩
  tabSize := nofun
  maxFiles := by decide
  excludes := nofun
  distinct := List.nodup_nil

theorem isTidy_of_mem_bind {text : Option String} {s : String} (h : s ∈ text.bind tidyText) : IsTidy s := by
  obtain ⟨t, -, tidied⟩ := Option.bind_eq_some_iff.1 h
  exact isTidy_of_tidyText tidied

theorem isNormal_normalize (s : Settings) : s.normalize.IsNormal where
  libraryPath := fun _ => isTidy_of_mem_bind
  projectPath := fun _ => isTidy_of_mem_bind
  mappings := areTidy_tidyMappings _
  tabSize := by
    intro n member
    obtain ⟨size, -, rfl⟩ := Option.map_eq_some_iff.1 member
    unfold Format.clampTabSize Format.minTabSize Format.maxTabSize
    omega
  maxFiles := by
    show 1 ≤ max minFiles (min _ maxFiles) ∧ max minFiles (min _ maxFiles) ≤ 20000
    unfold minFiles Settings.maxFiles
    omega
  excludes := by
    intro path member
    exact isTidy_of_mem_filterMap ((firstOfEach_sublist _ _).mem member)
  distinct := by
    have distinct := nodup_map_firstOfEach id (s.indexing.excludes.filterMap tidyText)
    rwa [List.map_id] at distinct

theorem isNormal_merge (s : Settings) (payload : Json) : (s.merge payload).IsNormal := by
  rw [merge_eq]
  exact isNormal_normalize _

/-! ## Normalising again -/

theorem clampTabSize_eq_self {n : Nat} (h : 1 ≤ n ∧ n ≤ 16) : Format.clampTabSize n = n := by
  unfold Format.clampTabSize Format.minTabSize Format.maxTabSize
  omega

theorem bind_tidyText_eq_self {text : Option String} (h : ∀ s ∈ text, IsTidy s) : text.bind tidyText = text := by
  cases text with
  | none => rfl
  | some s => rw [Option.bind_some, (h s rfl).tidyText_eq_some]

/-- Normalising settings in normal form only touches their mappings. -/
theorem IsNormal.normalize_eq {s : Settings} (normal : s.IsNormal) :
    s.normalize = { s with mappings := tidyMappings s.mappings } := by
  have tabSize : s.formatting.tabSize.map Format.clampTabSize = s.formatting.tabSize := by
    cases size : s.formatting.tabSize with
    | none => rfl
    | some n => rw [Option.map_some, clampTabSize_eq_self (normal.tabSize n size)]
  have maxFiles : max minFiles (min s.indexing.maxFiles Settings.maxFiles) = s.indexing.maxFiles := by
    obtain ⟨least, most⟩ := normal.maxFiles
    unfold minFiles Settings.maxFiles
    omega
  have excludes : firstOfEach id (s.indexing.excludes.filterMap tidyText) = s.indexing.excludes := by
    rw [filterMap_eq_self fun path member => (normal.excludes path member).tidyText_eq_some]
    apply firstOfEach_eq_self
    rw [List.map_id]
    exact normal.distinct
  rw [normalize, tabSize, maxFiles, excludes, bind_tidyText_eq_self normal.libraryPath,
    bind_tidyText_eq_self normal.projectPath]

theorem IsNormal.normalize_eq_self_iff {s : Settings} (normal : s.IsNormal) :
    s.normalize = s ↔ s.HasTrimmedNames := by
  rw [HasTrimmedNames, ← normal.mappings.tidyMappings_eq_self_iff, normal.normalize_eq]
  constructor
  · intro same
    exact congrArg Settings.mappings same
  · intro same
    rw [same]

/-- What a patch sets or leaves is the same after `f`, whether `f` has been at work before it or not. -/
theorem or_again {α : Type} (f : Option α → Option α) {old : Option α} (again : f (f old) = f old)
    (new : Option α) : f (new.or (f old)) = f (new.or old) := by
  cases new with
  | none => exact again
  | some a => rfl

theorem getD_again {α : Type} (f : α → α) {old : α} (again : f (f old) = f old) (new : Option α) :
    f (new.getD (f old)) = f (new.getD old) := by
  cases new with
  | none => exact again
  | some a => rfl

/-- Normalising before a patch changes nothing but the mappings, which are tidied once more unless the patch sets
them. -/
theorem normalize_apply_normalize (s : Settings) (p : SettingsPatch) :
    (s.normalize.apply p).normalize =
      { (s.apply p).normalize with mappings := tidyMappings (p.mappings.getD (tidyMappings s.mappings)) } := by
  have again := (isNormal_normalize s).normalize_eq
  have libraryPath := or_again (·.bind tidyText) (congrArg Settings.libraryPath again) p.libraryPath
  have projectPath := or_again (·.bind tidyText) (congrArg Settings.projectPath again) p.projectPath
  have tabSize := or_again (·.map Format.clampTabSize) (congrArg (·.formatting.tabSize) again) p.tabSize
  have maxFiles := getD_again (fun n => max minFiles (min n Settings.maxFiles))
    (congrArg (·.indexing.maxFiles) again) p.maxFiles
  have excludes := getD_again (fun paths => firstOfEach id (paths.filterMap tidyText))
    (congrArg (·.indexing.excludes) again) p.excludes
  simp only [normalize, apply, libraryPath, projectPath, tabSize, maxFiles, excludes]

/-! ## Merging -/

theorem apply_apply_self (s : Settings) (p : SettingsPatch) : (s.apply p).apply p = s.apply p := by
  rw [← apply_andThen]
  simp only [SettingsPatch.andThen, Option.or_self]

/-- A payload that sets mappings sets the same ones each time; another one tidies the mappings once more. -/
theorem merge_merge_eq_self_iff (s : Settings) (payload : Json) :
    (s.merge payload).merge payload = s.merge payload ↔
      (SettingsPatch.ofPayload payload).mappings.isSome ∨ (s.merge payload).HasTrimmedNames := by
  rw [merge_eq s, merge_eq, normalize_apply_normalize, apply_apply_self]
  generalize SettingsPatch.ofPayload payload = p
  have mappings :
      tidyMappings (p.mappings.getD (tidyMappings (s.apply p).mappings)) = tidyMappings (s.apply p).mappings ↔
      p.mappings.isSome ∨ (s.apply p).normalize.HasTrimmedNames := by
    cases set : p.mappings with
    | none =>
      rw [HasTrimmedNames, ← (isNormal_normalize _).mappings.tidyMappings_eq_self_iff]
      simp [normalize]
    | some mappings => simp [apply, set]
  rw [← mappings]
  constructor
  · intro same
    exact congrArg Settings.mappings same
  · intro same
    rw [same]
    rfl

/-- A payload that sets nothing leaves the settings as they are exactly if no name has a blank at an end. -/
theorem IsNormal.merge_eq_self_iff {s : Settings} (normal : s.IsNormal) {payload : Json}
    (sets : SettingsPatch.ofPayload payload = .nothing) : s.merge payload = s ↔ s.HasTrimmedNames := by
  rw [merge_eq, sets, apply_nothing]
  exact normal.normalize_eq_self_iff

/-- The payload sets no mapping whose name has a blank before the slashes at its end. -/
def SetsCleanNames (payload : Json) : Prop :=
  ∀ mappings ∈ (SettingsPatch.ofPayload payload).mappings, ∀ m ∈ mappings, IsClean m.1

theorem IsNormal.hasTrimmedNames_merge {s : Settings} (normal : s.IsNormal) (trimmed : s.HasTrimmedNames)
    {payload : Json} (clean : SetsCleanNames payload) : (s.merge payload).HasTrimmedNames := by
  rw [merge_eq]
  intro n member
  obtain ⟨m, source, tidied⟩ := exists_of_mem_tidyMappings member
  apply isTrimmed_name_of_tidyMapping tidied
  cases set : (SettingsPatch.ofPayload payload).mappings with
  | none =>
    rw [apply, set] at source
    exact (normal.mappings.each m source).isClean (trimmed m source)
  | some mappings =>
    rw [apply, set] at source
    exact clean mappings set m source

/-! ## All payloads of a client -/

/-- The settings after these payloads, in turn. -/
def afterAll (payloads : List Json) : Settings :=
  payloads.foldl merge default

theorem isNormal_afterAll (payloads : List Json) : (afterAll payloads).IsNormal := by
  induction payloads using List.reverseRecOn with
  | nil => exact isNormal_default
  | append_singleton payloads payload ih =>
    rw [afterAll, List.foldl_append]
    exact isNormal_merge _ payload

theorem hasTrimmedNames_afterAll {payloads : List Json} (clean : ∀ payload ∈ payloads, SetsCleanNames payload) :
    (afterAll payloads).HasTrimmedNames := by
  induction payloads using List.reverseRecOn with
  | nil => exact fun _ member => nomatch member
  | append_singleton payloads payload ih =>
    rw [afterAll, List.foldl_append]
    apply (isNormal_afterAll payloads).hasTrimmedNames_merge
    · exact ih fun p member => clean p (List.mem_append_left _ member)
    · exact clean payload (by simp)

/-- After any payloads the settings are in normal form, except for blanks at the ends of names of mappings. Just
where there is such a name, normalising them again, merging what sets nothing, and merging once more a payload that
does not set the mappings change the settings. There is none if no payload has set a name with a blank before the
slashes at its end. -/
theorem normalForm_afterAll (payloads : List Json) :
    (afterAll payloads).IsNormal ∧
    ((afterAll payloads).normalize = afterAll payloads ↔ (afterAll payloads).HasTrimmedNames) ∧
    (∀ payload, SettingsPatch.ofPayload payload = .nothing →
      ((afterAll payloads).merge payload = afterAll payloads ↔ (afterAll payloads).HasTrimmedNames)) ∧
    (∀ payload, ((afterAll payloads).merge payload).merge payload = (afterAll payloads).merge payload ↔
      (SettingsPatch.ofPayload payload).mappings.isSome ∨ ((afterAll payloads).merge payload).HasTrimmedNames) ∧
    ((∀ payload ∈ payloads, SetsCleanNames payload) → (afterAll payloads).HasTrimmedNames) := by
  have normal := isNormal_afterAll payloads
  refine ⟨normal, normal.normalize_eq_self_iff, ?_, ?_, hasTrimmedNames_afterAll⟩
  · intro payload sets
    exact normal.merge_eq_self_iff sets
  · intro payload
    exact merge_merge_eq_self_iff _ payload

/-! ## Names that end in a slash -/

theorem ofPayload_empty : SettingsPatch.ofPayload (.object []) = .nothing := by
  decide +kernel

/-- A payload with a mapping of this name. -/
def payloadOf (name : String) : Json :=
  .object [("packageMappings", .object [(name, .text "/acme")])]

theorem setsCleanNames_slashed : SetsCleanNames (payloadOf "com.acme/") := by
  have set : (SettingsPatch.ofPayload (payloadOf "com.acme/")).mappings = some [("com.acme/", "/acme")] := by
    decide +kernel
  have name : Text.trimEndWhile (· == '/') (Text.trim "com.acme/".toList) =
      ['c', 'o', 'm', '.', 'a', 'c', 'm', 'e'] := by
    decide +kernel
  intro mappings sets m member
  rw [set] at sets
  cases sets
  cases List.mem_singleton.1 member
  rw [IsClean, name]
  constructor
  · rintro c ⟨⟩
    decide
  · rintro c ⟨⟩
    decide

/-- Where a name just ends in a slash, merging what sets nothing changes nothing. -/
theorem merge_empty_slashed :
    (afterAll [payloadOf "com.acme/"]).merge (.object []) = afterAll [payloadOf "com.acme/"] := by
  obtain ⟨-, -, unchanged, -, trimmed⟩ := normalForm_afterAll [payloadOf "com.acme/"]
  rw [unchanged _ ofPayload_empty]
  apply trimmed
  intro payload member
  rw [List.mem_singleton.1 member]
  exact setsCleanNames_slashed

/-- Where a blank stands before the slash, it is left at the end of the name until anything is merged again. -/
theorem merge_empty_spaced :
    (afterAll [payloadOf "com.acme /"]).mappings = [("com.acme ", "/acme")] ∧
    ((afterAll [payloadOf "com.acme /"]).merge (.object [])).mappings = [("com.acme", "/acme")] ∧
    ¬(afterAll [payloadOf "com.acme /"]).HasTrimmedNames ∧
    (afterAll [payloadOf "com.acme /"]).normalize ≠ afterAll [payloadOf "com.acme /"] := by
  have spaced : (afterAll [payloadOf "com.acme /"]).mappings = [("com.acme ", "/acme")] := by decide +kernel
  have tidied : ((afterAll [payloadOf "com.acme /"]).merge (.object [])).mappings = [("com.acme", "/acme")] := by
    decide +kernel
  have changed : (afterAll [payloadOf "com.acme /"]).normalize ≠ afterAll [payloadOf "com.acme /"] := by
    intro same
    rw [merge_eq, ofPayload_empty, apply_nothing, same, spaced] at tidied
    revert tidied
    decide
  refine ⟨spaced, tidied, ?_, changed⟩
  intro trimmed
  exact changed ((isNormal_afterAll _).normalize_eq_self_iff.2 trimmed)

end Settings

end ShaderAnalysis
