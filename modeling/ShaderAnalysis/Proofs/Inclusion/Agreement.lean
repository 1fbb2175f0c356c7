import Mathlib.Data.Option.Basic
import Mathlib.Logic.Function.Basic
import ShaderAnalysis.Proofs.Inclusion.Scan

/-!
# Configurations that lead to the same places

Configurations are compared by the components of their paths, and what is resolved does not tell apart those that are
the same (`resolve_congr`). What a registry keeps was found on some disk, and resolution answers as with a scan of the
present project on that disk or on the present one (`exists_resolve_eq`).
-/

namespace ShaderAnalysis

/-! ## Functions of a key -/

section Key

variable {α β γ : Type} {key : α → β} {xs ys : List α} (same : xs.map key = ys.map key)

include same

theorem map_eq_of_factorsThrough [Nonempty γ] {f : α → γ} (h : f.FactorsThrough key) : xs.map f = ys.map f := by
  obtain ⟨g, rfl⟩ := (Function.factorsThrough_iff f).1 h
  rw [← List.map_map, same, List.map_map]

theorem filterMap_eq_of_factorsThrough {f : α → Option γ} (h : f.FactorsThrough key) :
    xs.filterMap f = ys.filterMap f := by
  obtain ⟨g, rfl⟩ := (Function.factorsThrough_iff f).1 h
  rw [← List.filterMap_map, same, List.filterMap_map]

theorem map_find?_eq_of_factorsThrough {p : α → Bool} (h : p.FactorsThrough key) :
    (xs.find? p).map key = (ys.find? p).map key := by
  obtain ⟨g, rfl⟩ := (Function.factorsThrough_iff p).1 h
  rw [← List.find?_map, same, List.find?_map]

end Key

namespace IncludeConfig

/-! ## Agreement -/

/-- Two configurations have spellings of the same paths. -/
structure Agrees (c d : IncludeConfig) : Prop where
  library : c.library.map Path.components = d.library.map Path.components
  project : c.project.map Path.components = d.project.map Path.components
  names : c.mappings.map (·.1) = d.mappings.map (·.1)
  targets : c.mappings.map (·.2.components) = d.mappings.map (·.2.components)
  roots : c.roots.map Path.components = d.roots.map Path.components

theorem same_iff {c d : IncludeConfig} : c.same d = true ↔ c.Agrees d := by
  have options (p q : Option Path) : p.toList.map Path.components = q.toList.map Path.components ↔
      p.map Path.components = q.map Path.components := by
    cases p <;> cases q <;> simp
  simp only [same, Bool.and_eq_true, beq_iff_eq, options, List.map_map]
  constructor
  · rintro ⟨⟨⟨⟨library, project⟩, names⟩, targets⟩, roots⟩
    exact ⟨library, project, names, targets, roots⟩
  · rintro ⟨library, project, names, targets, roots⟩
    exact ⟨⟨⟨⟨library, project⟩, names⟩, targets⟩, roots⟩

theorem Agrees.refl (c : IncludeConfig) : c.Agrees c :=
  ⟨rfl, rfl, rfl, rfl, rfl⟩

theorem Agrees.symm {c d : IncludeConfig} (h : c.Agrees d) : d.Agrees c :=
  ⟨h.library.symm, h.project.symm, h.names.symm, h.targets.symm, h.roots.symm⟩

theorem Agrees.trans {c d e : IncludeConfig} (h : c.Agrees d) (h' : d.Agrees e) : c.Agrees e :=
  ⟨h.library.trans h'.library, h.project.trans h'.project, h.names.trans h'.names, h.targets.trans h'.targets,
    h.roots.trans h'.roots⟩

variable {c d : IncludeConfig}

theorem Agrees.mappings (agrees : c.Agrees d) :
    c.mappings.map (fun m => (m.1, m.2.components)) = d.mappings.map fun m => (m.1, m.2.components) := by
  rw [← List.zip_map', agrees.names, agrees.targets, List.zip_map']

/-! ## Candidates -/

theorem normalize_join_factorsThrough (text : String) :
    (fun p : Path => (p.join text).normalize).FactorsThrough Path.components :=
  fun _ _ same => Path.normalize_congr (Path.components_join_congr same text)

theorem mapped?_factorsThrough (inner : List Char) :
    (mapped? inner).FactorsThrough fun m => (m.1, m.2.components) := by
  intro m n same
  obtain ⟨name, target⟩ := Prod.mk.inj same
  have joined (text : String) : (m.2.join text).normalize = (n.2.join text).normalize :=
    normalize_join_factorsThrough text target
  simp only [mapped?, name, joined]

theorem near_congr (agrees : c.Agrees d) (directory : Path) (literal : String) :
    c.near directory literal = d.near directory literal := by
  simp only [near, fun inner => filterMap_eq_of_factorsThrough agrees.mappings (mapped?_factorsThrough inner)]

theorem far_congr (agrees : c.Agrees d) (literal : String) : c.far literal = d.far literal := by
  have roots : c.roots.map (fun p => (p.join literal).normalize) = d.roots.map fun p => (p.join literal).normalize :=
    map_eq_of_factorsThrough agrees.roots (normalize_join_factorsThrough literal)
  have libraries : c.library.toList.map Path.components = d.library.toList.map Path.components := by
    rw [← Option.toList_map, agrees.library, Option.toList_map]
  have library := map_eq_of_factorsThrough libraries (normalize_join_factorsThrough literal)
  have origins (found : List Path) (origin : IncludeOrigin) :
      found.map (fun p => ((p.join literal).normalize, origin)) =
        (found.map fun p => (p.join literal).normalize).map (·, origin) := by
    rw [List.map_map]
    rfl
  rw [far, far, origins, origins, origins, origins, roots, library]

theorem projectRoot?_congr (agrees : c.Agrees d) (disk : Disk) :
    (c.projectRoot? disk).map Path.components = (d.projectRoot? disk).map Path.components := by
  have isName : Path.IsName "Assets" := by constructor <;> decide
  have looks : (fun root : Path => disk.isDirectory (root.join "Assets")).FactorsThrough Path.components :=
    fun _ _ same => disk.isDirectory_join same isName
  rw [projectRoot?, projectRoot?, Option.map_or, Option.map_or, agrees.project,
    map_find?_eq_of_factorsThrough agrees.roots looks]

/-! ## Resolution -/

variable {disk : Disk} {r r' : PackageRegistry}

/-- Registries answer alike for the project of each configuration. -/
def AnswersAlike (c d : IncludeConfig) (disk : Disk) (r r' : PackageRegistry) : Prop :=
  ∀ p q, c.projectRoot? disk = some p → d.projectRoot? disk = some q →
    Table.AgreeOn Path.components (PackageRegistry.packages disk p r).1 (PackageRegistry.packages disk q r').1

theorem inProject?_congr (agrees : c.Agrees d) (alike : c.AnswersAlike d disk r r') (literal : String) :
    (c.inProject? disk literal r).1 = (d.inProject? disk literal r').1 := by
  have roots := projectRoot?_congr agrees disk
  cases named : packageFile? literal with
  | none => rw [inProject?_eq_of_none (.inr named), inProject?_eq_of_none (.inr named)]
  | some names =>
    obtain ⟨package, file⟩ := names
    cases root : c.projectRoot? disk with
    | none =>
      rw [root, Option.map_none, eq_comm, Option.map_eq_none_iff] at roots
      rw [inProject?_eq_of_none (.inl root), inProject?_eq_of_none (.inl roots)]
    | some p =>
      rw [root, Option.map_some, eq_comm, Option.map_eq_some_iff] at roots
      obtain ⟨q, root', -⟩ := roots
      have found := alike p q root root' package
      rw [inProject?_eq_of_some root named, inProject?_eq_of_some root' named]
      obtain ⟨g, joined⟩ := (Function.factorsThrough_iff _).1 (normalize_join_factorsThrough file)
      have made (here : Option Path) : here.map (fun directory => ((directory.join file).normalize,
          IncludeOrigin.packageRegistry)) = (here.map Path.components).map fun parts => (g parts, .packageRegistry) := by
        rw [Option.map_map]
        congr 1
        funext directory
        exact congrArg (·, IncludeOrigin.packageRegistry) (congrFun joined directory)
      dsimp only
      rw [made, made, found]

/-- Configurations that lead to the same places resolve alike, with registries that answer alike. -/
theorem resolve_congr (agrees : c.Agrees d) (alike : c.AnswersAlike d disk r r') (source : Path) (literal : String) :
    (c.resolve disk source literal r).1 = (d.resolve disk source literal r').1 := by
  rw [resolve_eq, resolve_eq, near_congr agrees, far_congr agrees, inProject?_congr agrees alike]
  split
  · rfl
  · split <;> rfl

/-! ## Scans -/

/-- The registry that keeps what a scan of the present project finds on the disk `scanned`. -/
def scannedOn (c : IncludeConfig) (disk scanned : Disk) : PackageRegistry :=
  ⟨(c.projectRoot? disk).map fun project => (project, Packages.ofProject scanned project)⟩

theorem packages_scannedOn {project : Path} (root : c.projectRoot? disk = some project) (scanned : Disk) :
    (PackageRegistry.packages disk project (c.scannedOn disk scanned)).1 = Packages.ofProject scanned project := by
  have kept : (c.scannedOn disk scanned).scanned.filter (·.1.same project) =
      some (project, Packages.ofProject scanned project) := by
    rw [scannedOn, root]
    exact Option.filter_some_pos (beq_self_eq_true _)
  rw [PackageRegistry.packages_eq_of_kept kept]

/-- What is resolved is what a scan of the present project gives that was made on the disk that the registry is from, or
that is made now. -/
theorem exists_resolve_eq (agrees : c.Agrees d) {scanned : Disk} (scan : r.IsScanOf scanned) (source : Path)
    (literal : String) : ∃ on ∈ [scanned, disk],
      (c.resolve disk source literal r).1 = (d.resolve disk source literal (d.scannedOn disk on)).1 := by
  have spelled {p q : Path} (root : c.projectRoot? disk = some p) (root' : d.projectRoot? disk = some q) :
      p.components = q.components := by
    have roots := projectRoot?_congr agrees disk
    rw [root, root'] at roots
    exact Option.some.inj roots
  cases root : c.projectRoot? disk with
  | none =>
    refine ⟨disk, by simp, resolve_congr agrees ?_ source literal⟩
    intro p q root'
    rw [root] at root'
    cases root'
  | some project =>
    cases kept : r.scanned.filter (·.1.same project) with
    | none =>
      refine ⟨disk, by simp, resolve_congr agrees ?_ source literal⟩
      intro p q root' root''
      obtain rfl : project = p := Option.some.inj (root.symm.trans root')
      rw [PackageRegistry.packages_eq_of_none kept, packages_scannedOn root'']
      exact Packages.agree_ofProject disk (spelled root root'')
    | some found =>
      refine ⟨scanned, by simp, resolve_congr agrees ?_ source literal⟩
      intro p q root' root''
      obtain rfl : project = p := Option.some.inj (root.symm.trans root')
      obtain ⟨isKept, same⟩ := Option.filter_eq_some_iff.1 kept
      rw [PackageRegistry.packages_eq_of_kept kept, packages_scannedOn root'', scan _ _ isKept]
      exact Packages.agree_ofProject scanned ((beq_iff_eq.1 same).trans (spelled root root''))

/-- A scan that is made now is what resolution does with a registry that keeps nothing. -/
theorem resolve_scannedOn_self (c : IncludeConfig) (disk : Disk) (source : Path) (literal : String) :
    (c.resolve disk source literal (c.scannedOn disk disk)).1 = (c.resolve disk source literal .empty).1 := by
  refine resolve_congr (.refl c) ?_ source literal
  intro p q root root'
  obtain rfl : p = q := Option.some.inj (root.symm.trans root')
  rw [packages_scannedOn root, PackageRegistry.packages_eq_of_none rfl]
  exact .refl _ _

/-- After a resolution the registry keeps what it kept, or what is found now. -/
theorem isScanOf_resolve {scanned : Disk} (scan : r.IsScanOf scanned) (source : Path) (literal : String) :
    (c.resolve disk source literal r).2.IsScanOf scanned ∨ (c.resolve disk source literal r).2.IsScanOf disk := by
  rcases (resolve_stable c disk source literal r).1 with unchanged | settled
  · rw [unchanged]
    exact .inl scan
  · rw [settled, IncludeConfig.settled]
    split
    · exact PackageRegistry.isScanOf_packages scan disk _
    · exact .inl scan

end IncludeConfig

end ShaderAnalysis
