import ShaderAnalysis.Proofs.Files.Same
import ShaderAnalysis.Proofs.Inclusion.Newest
import ShaderAnalysis.Proofs.Inclusion.Resolution

/-!
# Scans of a project

A scan finds the same packages from every spelling of the path of a project, in directories that are spellings of each
other (`agree_ofProject`). So a registry that keeps what was found on a disk answers as a new scan of that disk does
(`packages_agree`).
-/

namespace ShaderAnalysis

namespace Table

variable {κ α β : Type} [DecidableEq κ]

/-- Two tables have the same keys, with values of which `view` shows the same. -/
def AgreeOn (view : α → β) (here there : Table κ α) : Prop :=
  ∀ key, (here.find? key).map view = (there.find? key).map view

theorem AgreeOn.refl (view : α → β) (t : Table κ α) : AgreeOn view t t := fun _ => rfl

theorem AgreeOn.insert {view : α → β} {here there : Table κ α} (h : AgreeOn view here there) (key : κ) {a b : α}
    (same : view a = view b) : AgreeOn view (here.insert key a) (there.insert key b) := by
  intro other
  rw [find?_insert, find?_insert]
  split
  · rw [Option.map_some, Option.map_some, same]
  · exact h other

end Table

namespace Packages

variable {p q : Path}

/-- What a scan keeps of a version, but for the spelling of the directory. -/
def spelled (kept : String × Path) : String × List Path.Component :=
  (kept.1, kept.2.components)

theorem agree_addVersion {here there : Table String (String × Path)} (agree : Table.AgreeOn spelled here there)
    (same : p.components = q.components) : Table.AgreeOn spelled (addVersion here p) (addVersion there q) := by
  rw [addVersion, addVersion, Path.fileName?_congr same]
  have both (version : String) : spelled (version, p) = spelled (version, q) := congrArg (Prod.mk version) same
  split
  · exact agree
  · rename_i package version named
    have shown := agree package
    cases here? : here.find? package with
    | none =>
      cases there? : there.find? package with
      | none => exact agree.insert package (both version)
      | some kept =>
        rw [here?, there?] at shown
        cases shown
    | some kept =>
      cases there? : there.find? package with
      | none =>
        rw [here?, there?] at shown
        cases shown
      | some kept' =>
        rw [here?, there?, Option.map_some, Option.map_some] at shown
        have current : kept.1 = kept'.1 := (Prod.mk.inj (Option.some.inj shown)).1
        dsimp only
        rw [current]
        split
        · exact agree
        · exact agree.insert package (both version)

theorem agree_downloaded {here there : List Path}
    (same : List.Forall₂ (fun p q => p.components = q.components) here there) :
    Table.AgreeOn Path.components (downloaded here) (downloaded there) := by
  have folded : Table.AgreeOn spelled (here.foldl addVersion .empty) (there.foldl addVersion .empty) :=
    List.rel_foldl (P := Table.AgreeOn spelled) (R := fun p q : Path => p.components = q.components)
      (fun _ _ agree _ _ same => agree_addVersion agree same) (.refl _ _) same
  intro name
  have shown := congrArg (Option.map Prod.snd) (folded name)
  rw [Option.map_map, Option.map_map] at shown
  rw [find?_downloaded, find?_downloaded, Option.map_map, Option.map_map]
  exact shown

theorem isName_manifestFile : Path.IsName manifestFile := by
  constructor <;> decide

theorem agree_addOwn (disk : Disk) {here there : Packages} (agree : Table.AgreeOn Path.components here there)
    (same : p.components = q.components) :
    Table.AgreeOn Path.components (addOwn disk here p) (addOwn disk there q) := by
  rw [addOwn, addOwn, disk.readText?_join same isName_manifestFile]
  split
  · exact agree.insert _ same
  · exact agree

/-- A scan depends on the path of a project but not on how it is spelled. -/
theorem agree_ofProject (disk : Disk) (same : p.components = q.components) :
    Table.AgreeOn Path.components (ofProject disk p) (ofProject disk q) := by
  have cached : Path.IsName "PackageCache" := by constructor <;> decide
  have own : Path.IsName "Packages" := by constructor <;> decide
  exact List.rel_foldl (P := Table.AgreeOn Path.components) (R := fun p q : Path => p.components = q.components)
    (fun _ _ agree _ _ same => agree_addOwn disk agree same)
    (agree_downloaded (disk.subdirectories_join (Path.components_join_congr same "Library") cached))
    (disk.subdirectories_join same own)

end Packages

/-! ## Registries -/

namespace PackageRegistry

/-- What a registry keeps was found on this disk. -/
def IsScanOf (r : PackageRegistry) (disk : Disk) : Prop :=
  ∀ project packages, r.scanned = some (project, packages) → packages = Packages.ofProject disk project

variable {r : PackageRegistry} {disk : Disk}

theorem isScanOf_empty (disk : Disk) : IsScanOf .empty disk := nofun

/-- A project is answered for from what was found on the disk. -/
theorem packages_agree (scan : r.IsScanOf disk) (project : Path) :
    Table.AgreeOn Path.components (packages disk project r).1 (Packages.ofProject disk project) := by
  cases kept : r.scanned.filter (·.1.same project) with
  | none =>
    rw [packages_eq_of_none kept]
    exact .refl _ _
  | some found =>
    obtain ⟨scanned, same⟩ := Option.filter_eq_some_iff.1 kept
    rw [packages_eq_of_kept kept, scan _ _ scanned]
    exact Packages.agree_ofProject disk (beq_iff_eq.1 same)

/-- Once it has answered, a registry keeps what it kept, or what is found now. -/
theorem isScanOf_packages {scanned : Disk} (scan : r.IsScanOf scanned) (disk : Disk) (project : Path) :
    (packages disk project r).2.IsScanOf scanned ∨ (packages disk project r).2.IsScanOf disk := by
  cases kept : r.scanned.filter (·.1.same project) with
  | none =>
    rw [packages_eq_of_none kept]
    right
    rintro _ _ ⟨⟩
    rfl
  | some found =>
    rw [packages_eq_of_kept kept]
    exact .inl scan

end PackageRegistry

end ShaderAnalysis
