import Mathlib.Data.List.Induction
import ShaderAnalysis.Inclusion.Package
import ShaderAnalysis.Proofs.Inclusion.Version

/-!
# The newest version of a package

A scan keeps one directory of each package and replaces it when it comes to a version that is not less. Among versions
whose order is transitive, what is left is the newest one in whatever order the directories come
(`isNewestIn_foldl`).
-/

namespace ShaderAnalysis.Packages

open Std

/-- A directory is named by this package and this version. -/
def Holds (directory : Path) (name version : String) : Prop :=
  directory.fileName?.bind ofDirectoryName? = some (name, version)

/-- The versions of a package in these directories. -/
def versionsIn (directories : List Path) (name : String) : Set String :=
  fun version => ∃ directory ∈ directories, Holds directory name version

/-- A directory holds a version of a package, and none of these directories a greater one. -/
structure IsNewest (directories : List Path) (name : String) (newest : Path) (version : String) : Prop where
  mem : newest ∈ directories
  holds : Holds newest name version
  notLess : ∀ directory ∈ directories, ∀ other, Holds directory name other → (Version.compare other version).isLE

/-- What is kept of a package is its newest version, and nothing only if there is none. -/
def IsNewestIn (directories : List Path) (name : String) : Option (String × Path) → Prop
  | none => ∀ directory ∈ directories, ∀ version, ¬Holds directory name version
  | some (version, newest) => IsNewest directories name newest version

variable {directories : List Path} {directory : Path} {name package version : String}
  {newest : Table String (String × Path)}

/-! ## One more directory -/

theorem Holds.unique (h : Holds directory name version) {name' version' : String}
    (h' : Holds directory name' version') : name' = name ∧ version' = version := by
  rw [Holds, h] at h'
  cases h'
  exact ⟨rfl, rfl⟩

theorem addVersion_of_nameless (h : directory.fileName?.bind ofDirectoryName? = none) :
    addVersion newest directory = newest := by
  rw [addVersion, h]

theorem find?_addVersion_of_ne (h : Holds directory package version) (other : name ≠ package) :
    (addVersion newest directory).find? name = newest.find? name := by
  rw [addVersion, h]
  dsimp only
  split
  · split
    · rfl
    · rw [Table.find?_insert, if_neg other]
  · rw [Table.find?_insert, if_neg other]

theorem find?_addVersion_of_none (h : Holds directory name version) (first : newest.find? name = none) :
    (addVersion newest directory).find? name = some (version, directory) := by
  rw [addVersion, h]
  dsimp only
  rw [first]
  dsimp only
  rw [Table.find?_insert, if_pos rfl]

theorem find?_addVersion_of_some (h : Holds directory name version) {current : String} {kept : Path}
    (found : newest.find? name = some (current, kept)) :
    (addVersion newest directory).find? name =
      if Version.compare version current = .lt then some (current, kept) else some (version, directory) := by
  rw [addVersion, h]
  dsimp only
  rw [found]
  dsimp only
  rw [apply_ite (Table.find? · name), found, Table.find?_insert, if_pos rfl]
  simp only [beq_iff_eq]

/-- A directory of another package, or of none, leaves the newest version what it is. -/
theorem IsNewestIn.concat_of_other (h : ∀ version, ¬Holds directory name version) {kept : Option (String × Path)}
    (isNewest : IsNewestIn directories name kept) : IsNewestIn (directories ++ [directory]) name kept := by
  have elsewhere : ∀ other ∈ directories ++ [directory], ∀ version, Holds other name version → other ∈ directories := by
    intro other member version holds
    rcases List.mem_append.1 member with before | last
    · exact before
    · rw [List.mem_singleton.1 last] at holds
      exact absurd holds (h version)
  cases kept with
  | none => exact fun other member version holds => isNewest other (elsewhere other member version holds) version holds
  | some kept =>
    obtain ⟨mem, holds, notLess⟩ := isNewest
    exact ⟨List.mem_append_left _ mem, holds,
      fun other member version holds => notLess other (elsewhere other member version holds) version holds⟩

/-- Of two versions the one that is not less is kept, and with it what was newest so far stays below. -/
theorem IsNewestIn.concat_of_holds (h : Holds directory name version)
    (transitive : Version.IsTransitiveOn (versionsIn (directories ++ [directory]) name))
    (isNewest : IsNewestIn directories name (newest.find? name)) :
    IsNewestIn (directories ++ [directory]) name ((addVersion newest directory).find? name) := by
  have here : directory ∈ directories ++ [directory] := by simp
  have equal : Version.compare version version = .eq := ReflCmp.compare_self
  have self : (Version.compare version version).isLE := by
    rw [equal]
    rfl
  cases found : newest.find? name with
  | none =>
    rw [found] at isNewest
    rw [find?_addVersion_of_none h found]
    refine ⟨here, h, ?_⟩
    intro other member version' holds
    rcases List.mem_append.1 member with before | last
    · exact absurd holds (isNewest other before version')
    · rw [List.mem_singleton.1 last] at holds
      rw [(h.unique holds).2]
      exact self
  | some kept =>
    obtain ⟨current, kept⟩ := kept
    rw [found] at isNewest
    obtain ⟨mem, holds, notLess⟩ := isNewest
    rw [find?_addVersion_of_some h found]
    split
    · rename_i less
      refine ⟨List.mem_append_left _ mem, holds, ?_⟩
      intro other member version' holds'
      rcases List.mem_append.1 member with before | last
      · exact notLess other before version' holds'
      · rw [List.mem_singleton.1 last] at holds'
        rw [(h.unique holds').2, less]
        rfl
    · rename_i notLess'
      have newer : (Version.compare current version).isLE := by
        rw [Version.compare_swap, Ordering.isLE_swap]
        exact Ordering.isGE_iff_ne_lt.2 notLess'
      refine ⟨here, h, ?_⟩
      intro other member version' holds'
      rcases List.mem_append.1 member with before | last
      · exact transitive version' ⟨other, member, holds'⟩ current ⟨kept, List.mem_append_left _ mem, holds⟩ version
          ⟨directory, here, h⟩ (notLess other before version' holds') newer
      · rw [List.mem_singleton.1 last] at holds'
        rw [(h.unique holds').2]
        exact self

/-! ## All directories -/

theorem isTransitiveOn_versionsIn_of_subset {more : List Path} (subset : directories ⊆ more)
    (transitive : Version.IsTransitiveOn (versionsIn more name)) :
    Version.IsTransitiveOn (versionsIn directories name) := by
  have up : ∀ version, versionsIn directories name version → versionsIn more name version := by
    rintro version ⟨directory, member, holds⟩
    exact ⟨directory, subset member, holds⟩
  exact fun a ha b hb c hc => transitive a (up a ha) b (up b hb) c (up c hc)

/-- Where the order of the versions is transitive, the one that a scan is left with is the newest. -/
theorem isNewestIn_foldl (directories : List Path)
    (transitive : Version.IsTransitiveOn (versionsIn directories name)) :
    IsNewestIn directories name ((directories.foldl addVersion .empty).find? name) := by
  induction directories using List.reverseRecOn with
  | nil => exact fun directory member => absurd member List.not_mem_nil
  | append_singleton directories directory ih =>
    have before := ih (isTransitiveOn_versionsIn_of_subset (List.subset_append_left ..) transitive)
    rw [List.foldl_append]
    cases named : directory.fileName?.bind ofDirectoryName? with
    | none =>
      rw [List.foldl_cons, addVersion_of_nameless named]
      apply before.concat_of_other
      intro version holds
      cases named.symm.trans holds
    | some named' =>
      obtain ⟨package, version⟩ := named'
      have holds : Holds directory package version := named
      by_cases same : name = package
      · rw [← same] at holds
        exact before.concat_of_holds holds transitive
      · rw [List.foldl_cons, List.foldl_nil, find?_addVersion_of_ne holds same]
        apply before.concat_of_other
        intro other holds'
        exact same (holds.unique holds').1

theorem find?_downloaded (directories : List Path) (name : String) :
    (downloaded directories).find? name = ((directories.foldl addVersion .empty).find? name).map (·.2) := by
  rw [downloaded, Table.find?, Table.find?, List.find?_map, Option.map_map, Option.map_map]
  rfl

/-- The directory that a package is downloaded to holds the newest version, wherever there is one at all. -/
theorem exists_isNewest_downloaded (transitive : Version.IsTransitiveOn (versionsIn directories name))
    (member : directory ∈ directories) (holds : Holds directory name version) :
    ∃ newest latest, (downloaded directories).find? name = some newest ∧ IsNewest directories name newest latest := by
  have isNewest := isNewestIn_foldl directories transitive
  rw [find?_downloaded]
  cases found : (directories.foldl addVersion .empty).find? name with
  | none =>
    rw [found] at isNewest
    exact absurd holds (isNewest directory member version)
  | some kept =>
    rw [found] at isNewest
    exact ⟨kept.2, kept.1, rfl, isNewest⟩

/-- Versions of which each is the newest are equal. -/
theorem IsNewest.compare_eq {newest newest' : Path} {latest latest' : String}
    (h : IsNewest directories name newest latest) (h' : IsNewest directories name newest' latest') :
    Version.compare latest latest' = .eq :=
  OrientedCmp.isLE_antisymm (h'.notLess newest h.mem latest h.holds) (h.notLess newest' h'.mem latest' h'.holds)

theorem IsNewest.of_perm {listed : List Path} (perm : listed.Perm directories) {newest : Path} {latest : String}
    (h : IsNewest listed name newest latest) : IsNewest directories name newest latest where
  mem := perm.mem_iff.1 h.mem
  holds := h.holds
  notLess := fun directory member => h.notLess directory (perm.mem_iff.2 member)

/-! ## Projects -/

/-- The directories that a project downloads packages to. -/
def cached (disk : Disk) (project : Path) : List Path :=
  disk.subdirectories ((project.join "Library").join "PackageCache")

/-- No package of the project itself states this name. -/
def IsUndeclared (disk : Disk) (project : Path) (name : String) : Prop :=
  ∀ own ∈ disk.subdirectories (project.join "Packages"),
    (disk.readText? (own.join manifestFile)).bind nameInManifest? ≠ some name

theorem find?_foldl_addOwn {disk : Disk} {own : List Path} {packages : Packages}
    (undeclared : ∀ directory ∈ own, (disk.readText? (directory.join manifestFile)).bind nameInManifest? ≠ some name) :
    (own.foldl (addOwn disk) packages).find? name = packages.find? name := by
  induction own generalizing packages with
  | nil => rfl
  | cons directory own ih =>
    have here := undeclared directory List.mem_cons_self
    rw [List.foldl_cons, ih fun other member => undeclared other (List.mem_cons_of_mem _ member)]
    unfold addOwn
    split
    · rename_i stated named
      rw [Table.find?_insert, if_neg]
      rintro rfl
      exact here named
    · rfl

theorem find?_ofProject {disk : Disk} {project : Path} (undeclared : IsUndeclared disk project name) :
    (ofProject disk project).find? name = (downloaded (cached disk project)).find? name :=
  find?_foldl_addOwn undeclared

/-- Comparing two versions the other way round gives the reverse. The order is transitive among versions just if none
of them stands between two others against their order. Among such versions, a package that the project does not state
itself is found in a directory with a version that is not less than any other one, and in whatever order the
directories are listed, the version is equal to that. -/
theorem newest_is_registered (disk : Disk) (project : Path) (name : String) :
    (∀ a b, Version.compare b a = (Version.compare a b).swap) ∧
    (∀ versions, Version.IsTransitiveOn versions ↔ Version.AreRanked versions) ∧
    (IsUndeclared disk project name → Version.AreRanked (versionsIn (cached disk project) name) →
      ∀ directory ∈ cached disk project, ∀ version, Holds directory name version →
        ∃ newest latest, (ofProject disk project).find? name = some newest ∧
          IsNewest (cached disk project) name newest latest ∧
          ∀ listed : List Path, listed.Perm (cached disk project) →
            ∃ newest' latest', (downloaded listed).find? name = some newest' ∧
              IsNewest (cached disk project) name newest' latest' ∧ Version.compare latest' latest = .eq) := by
  refine ⟨Version.compare_swap, Version.isTransitiveOn_iff, ?_⟩
  intro undeclared ranked directory member version holds
  have transitive := (Version.isTransitiveOn_iff _).2 ranked
  obtain ⟨newest, latest, found, isNewest⟩ := exists_isNewest_downloaded transitive member holds
  refine ⟨newest, latest, (find?_ofProject undeclared).trans found, isNewest, ?_⟩
  intro listed perm
  have transitive' := isTransitiveOn_versionsIn_of_subset perm.subset transitive
  obtain ⟨newest', latest', found', isNewest'⟩ := exists_isNewest_downloaded transitive' (perm.mem_iff.2 member) holds
  exact ⟨newest', latest', found', isNewest'.of_perm perm, (isNewest'.of_perm perm).compare_eq isNewest⟩

/-! ## Releases and tags -/

/-- A disk with a project that has downloaded these versions of one package. -/
def cacheDisk (versions : List String) : Disk :=
  ⟨.directory [("p", .directory [("Library", .directory [("PackageCache",
    .directory (versions.map fun version => ("com.x@" ++ version, .directory [])))])])]⟩

theorem isUndeclared_cacheDisk (versions : List String) : IsUndeclared (cacheDisk versions) ⟨"/p"⟩ "com.x" := by
  have none : (cacheDisk versions).subdirectories (Path.join ⟨"/p"⟩ "Packages") = [] := rfl
  intro own member
  rw [none] at member
  cases member

/-- Of two releases the one with the greater number is found, though it is listed first. -/
theorem newest_of_releases :
    IsUndeclared (cacheDisk ["1.10.0", "1.9.2"]) ⟨"/p"⟩ "com.x" ∧
    Version.AreRanked (versionsIn (cached (cacheDisk ["1.10.0", "1.9.2"]) ⟨"/p"⟩) "com.x") ∧
    ∃ newest latest, (ofProject (cacheDisk ["1.10.0", "1.9.2"]) ⟨"/p"⟩).find? "com.x" = some newest ∧
      IsNewest (cached (cacheDisk ["1.10.0", "1.9.2"]) ⟨"/p"⟩) "com.x" newest latest := by
  have listed : cached (cacheDisk ["1.10.0", "1.9.2"]) ⟨"/p"⟩ =
      [⟨"/p/Library/PackageCache/com.x@1.10.0"⟩, ⟨"/p/Library/PackageCache/com.x@1.9.2"⟩] := by
    decide +kernel
  have first : Holds ⟨"/p/Library/PackageCache/com.x@1.10.0"⟩ "com.x" "1.10.0" := by unfold Holds; decide +kernel
  have second : Holds ⟨"/p/Library/PackageCache/com.x@1.9.2"⟩ "com.x" "1.9.2" := by unfold Holds; decide +kernel
  have undeclared := isUndeclared_cacheDisk ["1.10.0", "1.9.2"]
  have ranked : Version.AreRanked (versionsIn (cached (cacheDisk ["1.10.0", "1.9.2"]) ⟨"/p"⟩) "com.x") := by
    apply Version.areRanked_of_numbers
    rintro version ⟨directory, member, holds⟩
    rw [listed] at member
    rcases List.mem_cons.1 member with rfl | member
    · obtain ⟨-, rfl⟩ := first.unique holds
      decide +kernel
    · rw [List.mem_singleton.1 member] at holds
      obtain ⟨-, rfl⟩ := second.unique holds
      decide +kernel
  obtain ⟨newest, latest, found, isNewest, -⟩ := (newest_is_registered _ _ _).2.2 undeclared ranked
    ⟨"/p/Library/PackageCache/com.x@1.10.0"⟩ (by rw [listed]; exact List.mem_cons_self) "1.10.0" first
  exact ⟨undeclared, ranked, newest, latest, found, isNewest⟩

/-- Versions can follow each other in a circle, and where there are versions that are equal but not the same, a scan
can end with one that is less than another one: here with `1.1a`, though `01.5` is the newest version. -/
theorem newest_not_registered :
    (Version.compare "9" "10" = .lt ∧ Version.compare "10" "1a" = .lt ∧ Version.compare "1a" "9" = .lt) ∧
    ¬Version.IsTransitiveOn (fun _ => True) ∧
    IsUndeclared (cacheDisk ["01.5", "1.05", "1.1a"]) ⟨"/p"⟩ "com.x" ∧
    (ofProject (cacheDisk ["01.5", "1.05", "1.1a"]) ⟨"/p"⟩).find? "com.x" =
      some ⟨"/p/Library/PackageCache/com.x@1.1a"⟩ ∧
    Holds ⟨"/p/Library/PackageCache/com.x@1.1a"⟩ "com.x" "1.1a" ∧
    IsNewest (cached (cacheDisk ["01.5", "1.05", "1.1a"]) ⟨"/p"⟩) "com.x"
      ⟨"/p/Library/PackageCache/com.x@01.5"⟩ "01.5" ∧
    Version.compare "1.1a" "01.5" = .lt := by
  have circle : Version.compare "9" "10" = .lt ∧ Version.compare "10" "1a" = .lt ∧
      Version.compare "1a" "9" = .lt := by
    decide +kernel
  have listed : cached (cacheDisk ["01.5", "1.05", "1.1a"]) ⟨"/p"⟩ =
      [⟨"/p/Library/PackageCache/com.x@01.5"⟩, ⟨"/p/Library/PackageCache/com.x@1.05"⟩,
        ⟨"/p/Library/PackageCache/com.x@1.1a"⟩] := by
    decide +kernel
  have first : Holds ⟨"/p/Library/PackageCache/com.x@01.5"⟩ "com.x" "01.5" := by unfold Holds; decide +kernel
  have second : Holds ⟨"/p/Library/PackageCache/com.x@1.05"⟩ "com.x" "1.05" := by unfold Holds; decide +kernel
  have third : Holds ⟨"/p/Library/PackageCache/com.x@1.1a"⟩ "com.x" "1.1a" := by unfold Holds; decide +kernel
  refine ⟨circle, ?_, isUndeclared_cacheDisk _, by decide +kernel, third, ?_, by decide +kernel⟩
  · intro transitive
    have around := transitive "9" trivial "10" trivial "1a" trivial (by rw [circle.1]; rfl) (by rw [circle.2.1]; rfl)
    rw [Version.compare_swap, circle.2.2] at around
    cases around
  · refine ⟨by rw [listed]; exact List.mem_cons_self, first, ?_⟩
    intro directory member version holds
    rw [listed] at member
    simp only [List.mem_cons, List.not_mem_nil, or_false] at member
    rcases member with rfl | rfl | rfl
    · obtain ⟨-, rfl⟩ := first.unique holds
      decide +kernel
    · obtain ⟨-, rfl⟩ := second.unique holds
      decide +kernel
    · obtain ⟨-, rfl⟩ := third.unique holds
      decide +kernel

end ShaderAnalysis.Packages
