import ShaderAnalysis.Inclusion.Resolution
import ShaderAnalysis.Proofs.Files.Disk

/-!
# What resolution finds and what it keeps

An include only resolves to a file at a path in normal form (`resolve_hasPlain`). Resolving may look the
packages of the project up, but once that is done nothing changes any more, and it has no influence on what
is found (`resolve_stable`).
-/

namespace ShaderAnalysis

/-- The path is in normal form, and a file is there. -/
structure Disk.HasPlain (d : Disk) (p : Path) : Prop where
  isFile : d.isFile p = true
  normal : p.normalize = p

namespace Disk

variable {d : Disk}

theorem hasPlain_normalize {p : Path} (h : d.isFile p.normalize = true) : d.HasPlain p.normalize where
  isFile := h
  normal := by
    obtain ⟨there, found, -⟩ := exists_names?_of_isFile h
    obtain ⟨names, proper, normal⟩ := exists_normalize_eq_of_names? found
    rw [normal, Path.normalize_pathOf proper]

theorem HasPlain.ofPath {p : Path} (h : d.HasPlain p) : FileId.ofPath d p = ⟨p.text⟩ := by
  have identity := ofPath_normalize d p
  rw [h.normal] at identity
  exact identity

/-- A plain path and the identity of its file determine each other. -/
theorem HasPlain.eq_of_ofPath {p q : Path} (hp : d.HasPlain p) (hq : d.HasPlain q)
    (same : FileId.ofPath d p = FileId.ofPath d q) : p = q := by
  rw [hp.ofPath, hq.ofPath] at same
  cases p
  cases q
  cases same
  rfl

end Disk

/-! ## Packages -/

namespace PackageRegistry

theorem packages_eq_of_kept {disk : Disk} {project : Path} {r : PackageRegistry} {kept : Path × Packages}
    (h : r.scanned.filter (·.1.same project) = some kept) : packages disk project r = (kept.2, r) := by
  simp only [packages, bind, StateT.bind, get, getThe, MonadStateOf.get, StateT.get, pure, h]
  rfl

theorem packages_eq_of_none {disk : Disk} {project : Path} {r : PackageRegistry}
    (h : r.scanned.filter (·.1.same project) = none) :
    packages disk project r = (Packages.ofProject disk project, ⟨some (project, Packages.ofProject disk project)⟩) := by
  simp only [packages, bind, StateT.bind, get, getThe, MonadStateOf.get, StateT.get, pure, h]
  rfl

/-- Asked again, the registry says the same and changes no more. -/
theorem packages_again (disk : Disk) (project : Path) (r : PackageRegistry) :
    packages disk project (packages disk project r).2 = packages disk project r := by
  cases h : r.scanned.filter (·.1.same project) with
  | some kept => rw [packages_eq_of_kept h, packages_eq_of_kept h]
  | none =>
    have kept : (some (project, Packages.ofProject disk project)).filter (·.1.same project) =
        some (project, Packages.ofProject disk project) :=
      Option.filter_some_pos (beq_self_eq_true _)
    rw [packages_eq_of_none h, packages_eq_of_kept kept]

theorem directory?_eq (disk : Disk) (project : Path) (name : String) (r : PackageRegistry) :
    directory? disk project name r = ((packages disk project r).1.find? name, (packages disk project r).2) := rfl

end PackageRegistry

/-! ## Resolution -/

namespace IncludeConfig

variable (c : IncludeConfig) (disk : Disk)

/-- The registry once the packages of the project have been looked up. -/
def settled (r : PackageRegistry) : PackageRegistry :=
  match c.projectRoot? disk with
  | some project => (PackageRegistry.packages disk project r).2
  | none => r

section

variable {c disk}

theorem inProject?_eq_of_some {project : Path} {literal package file : String}
    (root : c.projectRoot? disk = some project) (named : packageFile? literal = some (package, file))
    (r : PackageRegistry) :
    c.inProject? disk literal r =
      (((PackageRegistry.packages disk project r).1.find? package).map fun directory =>
        ((directory.join file).normalize, .packageRegistry), (PackageRegistry.packages disk project r).2) := by
  simp only [inProject?, root, named, bind, StateT.bind, PackageRegistry.directory?_eq]
  rfl

theorem inProject?_eq_of_none {literal : String} (h : c.projectRoot? disk = none ∨ packageFile? literal = none)
    (r : PackageRegistry) : c.inProject? disk literal r = (none, r) := by
  rw [inProject?]
  rcases h with root | unnamed
  · rw [root]
    rfl
  · rw [unnamed]
    cases c.projectRoot? disk <;> rfl

end

theorem inProject?_stable (literal : String) (r : PackageRegistry) :
    ((c.inProject? disk literal r).2 = r ∨ (c.inProject? disk literal r).2 = c.settled disk r) ∧
      c.inProject? disk literal (c.settled disk r) = ((c.inProject? disk literal r).1, c.settled disk r) := by
  cases root : c.projectRoot? disk with
  | none =>
    rw [inProject?_eq_of_none (.inl root), inProject?_eq_of_none (.inl root)]
    exact ⟨.inl rfl, rfl⟩
  | some project =>
    have looked : c.settled disk r = (PackageRegistry.packages disk project r).2 := by rw [settled, root]
    cases named : packageFile? literal with
    | none =>
      rw [inProject?_eq_of_none (.inr named), inProject?_eq_of_none (.inr named)]
      exact ⟨.inl rfl, rfl⟩
    | some names =>
      rw [inProject?_eq_of_some root named, inProject?_eq_of_some root named, looked,
        PackageRegistry.packages_again disk project r]
      exact ⟨.inr rfl, rfl⟩

/-- Candidates in the packages of the project are only asked for if no nearer one exists. -/
theorem resolve_eq (source : Path) (literal : String) (r : PackageRegistry) :
    c.resolve disk source literal r =
      if (Text.trimmed literal).isEmpty then (none, r)
      else
        match (c.near (source.parent?.getD ⟨""⟩) (Text.trimmed literal)).find? (exists_ disk) with
        | some found => (some found, r)
        | none =>
          (((c.inProject? disk (Text.trimmed literal) r).1.filter (exists_ disk)).or
            ((c.far (Text.trimmed literal)).find? (exists_ disk)), (c.inProject? disk (Text.trimmed literal) r).2) := by
  cases empty : (Text.trimmed literal).isEmpty with
  | true =>
    simp only [resolve, empty, if_true]
    rfl
  | false =>
    simp only [resolve, empty, Bool.false_eq_true, if_false]
    cases near : (c.near (source.parent?.getD ⟨""⟩) (Text.trimmed literal)).find? (exists_ disk) with
    | some found => rfl
    | none =>
      simp only [bind, StateT.bind]
      obtain ⟨inside, after⟩ := c.inProject? disk (Text.trimmed literal) r
      dsimp only
      cases inside.filter (exists_ disk) <;> rfl

/-- Resolving changes the registry to the settled one if at all, and finds the same with that. -/
theorem resolve_stable (source : Path) (literal : String) (r : PackageRegistry) :
    ((c.resolve disk source literal r).2 = r ∨ (c.resolve disk source literal r).2 = c.settled disk r) ∧
      c.resolve disk source literal (c.settled disk r) =
        ((c.resolve disk source literal r).1, c.settled disk r) := by
  obtain ⟨keeps, again⟩ := inProject?_stable c disk (Text.trimmed literal) r
  rw [resolve_eq, resolve_eq, again]
  split
  · exact ⟨.inl rfl, rfl⟩
  · split
    · exact ⟨.inl rfl, rfl⟩
    · exact ⟨keeps, rfl⟩

/-! ## What is found -/

variable {c disk}

theorem exists_normalize_of_mapped? {inner : List Char} {mapping : String × Path} {candidate : Candidate}
    (h : mapped? inner mapping = some candidate) : ∃ q : Path, candidate.1 = q.normalize := by
  obtain ⟨rest, -, guarded⟩ := Option.bind_eq_some_iff.1 h
  obtain ⟨-, -, made⟩ := Option.bind_eq_some_iff.1 guarded
  rw [← Option.some.inj made]
  dsimp only
  exact ⟨_, rfl⟩

/-- Candidates are paths in normal form. -/
theorem exists_normalize_of_mem_near {directory : Path} {literal : String} {candidate : Candidate}
    (h : candidate ∈ c.near directory literal) : ∃ q : Path, candidate.1 = q.normalize := by
  rcases List.mem_cons.1 h with relative | mapped
  · rw [relative]
    dsimp only
    exact ⟨_, rfl⟩
  · obtain ⟨inner, -, mapped⟩ := List.mem_flatMap.1 mapped
    obtain ⟨mapping, -, mapped⟩ := List.mem_filterMap.1 mapped
    exact exists_normalize_of_mapped? mapped

theorem exists_normalize_of_mem_far {literal : String} {candidate : Candidate} (h : candidate ∈ c.far literal) :
    ∃ q : Path, candidate.1 = q.normalize := by
  rcases List.mem_append.1 h with root | library
  · obtain ⟨root, -, rfl⟩ := List.mem_map.1 root
    dsimp only
    exact ⟨_, rfl⟩
  · obtain ⟨library, -, rfl⟩ := List.mem_map.1 library
    dsimp only
    exact ⟨_, rfl⟩

theorem exists_normalize_of_inProject? {literal : String} {r : PackageRegistry} {candidate : Candidate}
    (h : (c.inProject? disk literal r).1 = some candidate) : ∃ q : Path, candidate.1 = q.normalize := by
  cases root : c.projectRoot? disk with
  | none =>
    rw [inProject?_eq_of_none (.inl root)] at h
    cases h
  | some project =>
    cases named : packageFile? literal with
    | none =>
      rw [inProject?_eq_of_none (.inr named)] at h
      cases h
    | some names =>
      rw [inProject?_eq_of_some root named] at h
      obtain ⟨directory, -, rfl⟩ := Option.map_eq_some_iff.1 h
      dsimp only
      exact ⟨_, rfl⟩

/-- What an include resolves to is a file at a path in normal form. -/
theorem resolve_hasPlain {source : Path} {literal : String} {r : PackageRegistry} {found : Candidate}
    (h : (c.resolve disk source literal r).1 = some found) : disk.HasPlain found.1 := by
  have plain : exists_ disk found = true → (∃ q : Path, found.1 = q.normalize) → disk.HasPlain found.1 := by
    rintro exists_ ⟨q, normal⟩
    rw [IncludeConfig.exists_, normal] at exists_
    rw [normal]
    exact Disk.hasPlain_normalize exists_
  rw [resolve_eq] at h
  split at h
  · cases h
  · split at h
    · rename_i near
      cases h
      exact plain (List.find?_some near) (exists_normalize_of_mem_near (List.mem_of_find?_eq_some near))
    · rcases Option.or_eq_some_iff.1 h with inProject | ⟨-, far⟩
      · obtain ⟨inProject, exists_⟩ := Option.filter_eq_some_iff.1 inProject
        exact plain exists_ (exists_normalize_of_inProject? inProject)
      · exact plain (List.find?_some far) (exists_normalize_of_mem_far (List.mem_of_find?_eq_some far))

end IncludeConfig

end ShaderAnalysis
