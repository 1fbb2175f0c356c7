import Mathlib.Data.List.Nodup
import ShaderAnalysis.Proofs.Files.Disk
import ShaderAnalysis.Workspace.Discovery

/-!
# Which shader files a scan finds

All shader files of a workspace, in the order in which a scan comes to them (`all`), are those that are reached through
admitted entries (`mem_all`). Whatever stops a scan, it has found the first ones of them, and a scan that is not
cancelled has found as many as it may (`files_spec`).
-/

namespace ShaderAnalysis

/-! ## First occurrences -/

section EraseDups

variable {α : Type} [BEq α] [LawfulBEq α]

theorem nodup_eraseDups (items : List α) : items.eraseDups.Nodup := by
  cases items with
  | nil => exact List.nodup_nil
  | cons a items =>
    rw [List.eraseDups_cons, List.nodup_cons]
    refine ⟨?_, nodup_eraseDups (items.filter fun b => !b == a)⟩
    intro again
    have kept := (List.mem_filter.1 (List.mem_eraseDups.1 again)).2
    simp at kept
termination_by items.length
decreasing_by
  have := List.length_filter_le (fun b => !b == a) items
  rw [List.length_cons]
  omega

theorem eraseDups_eq_self {items : List α} (nodup : items.Nodup) : items.eraseDups = items := by
  induction items with
  | nil => rfl
  | cons a items ih =>
    obtain ⟨fresh, nodup⟩ := List.nodup_cons.1 nodup
    rw [List.eraseDups_cons, List.filter_eq_self.2, ih nodup]
    intro b member
    have other : b ≠ a := by
      rintro rfl
      exact fresh member
    simpa using other

theorem isPrefix_eraseDups_append {items : List α} (nodup : items.Nodup) (more : List α) :
    items <+: (items ++ more).eraseDups := by
  rw [List.eraseDups_append, eraseDups_eq_self nodup]
  exact List.prefix_append ..

theorem eraseDups_append_cons_of_mem {items : List α} {a : α} (member : a ∈ items) (more : List α) :
    (items ++ a :: more).eraseDups = (items ++ more).eraseDups := by
  rw [List.eraseDups_append, List.eraseDups_append, List.removeAll, List.removeAll, List.filter_cons_of_neg]
  simpa using member

end EraseDups

/-! ## Places that are reached -/

namespace DiskNode

variable {admits : String → Path → DiskNode → Bool}

/-- A node lies at a place below another one, and all entries on the way are admitted. -/
inductive Reaches (admits : String → Path → DiskNode → Bool) : Path → DiskNode → Path → DiskNode → Prop
  | here (place : Path) (node : DiskNode) : Reaches admits place node place node
  | inside {place there : Path} {entries : List (String × DiskNode)} {name : String} {child node : DiskNode}
      (mem : (name, child) ∈ entries) (admitted : admits name (place.join name) child = true)
      (reaches : Reaches admits (place.join name) child there node) :
      Reaches admits place (.directory entries) there node

mutual

theorem reaches_of_mem_walk {place there : Path} {isFile : Bool} :
    ∀ {n : DiskNode}, (there, isFile) ∈ n.walk admits place →
      ∃ node, Reaches admits place n there node ∧ node.isFile = isFile
  | .file content, h => by
    cases List.mem_singleton.1 h
    exact ⟨_, .here place (.file content), rfl⟩
  | .directory entries, h => by
    rcases List.mem_cons.1 h with here | below
    · cases here
      exact ⟨_, .here place (.directory entries), rfl⟩
    · obtain ⟨name, child, mem, admitted, node, reaches, kind⟩ := reaches_of_mem_walkEntries below
      exact ⟨node, .inside mem admitted reaches, kind⟩

theorem reaches_of_mem_walkEntries {place there : Path} {isFile : Bool} :
    ∀ {entries : List (String × DiskNode)}, (there, isFile) ∈ walkEntries admits place entries →
      ∃ name child, (name, child) ∈ entries ∧ admits name (place.join name) child = true ∧
        ∃ node, Reaches admits (place.join name) child there node ∧ node.isFile = isFile
  | [], h => by cases h
  | (name, child) :: rest, h => by
    rw [walkEntries] at h
    rcases List.mem_append.1 h with first | later
    · split at first
      · rename_i admitted
        obtain ⟨node, reaches, kind⟩ := reaches_of_mem_walk first
        exact ⟨name, child, List.mem_cons_self, admitted, node, reaches, kind⟩
      · cases first
    · obtain ⟨name, child, mem, found⟩ := reaches_of_mem_walkEntries later
      exact ⟨name, child, List.mem_cons_of_mem _ mem, found⟩

end

theorem Reaches.mem_walk {place there : Path} {n node : DiskNode} (h : Reaches admits place n there node) :
    (there, node.isFile) ∈ n.walk admits place := by
  induction h with
  | here place node => cases node <;> exact List.mem_cons_self
  | inside mem admitted _ ih => exact List.mem_cons_of_mem _ (mem_walkEntries mem admitted ih)

/-- A walk comes just to the places that are reached. -/
theorem mem_walk_iff {place there : Path} {n : DiskNode} {isFile : Bool} :
    (there, isFile) ∈ n.walk admits place ↔ ∃ node, Reaches admits place n there node ∧ node.isFile = isFile := by
  constructor
  · exact reaches_of_mem_walk
  · rintro ⟨node, reaches, rfl⟩
    exact reaches.mem_walk

end DiskNode

namespace Discovery

variable {disk : Disk} {request : ScanRequest}

/-- The one path of the shader file that is visited, if it is one. -/
def shaderFile? (disk : Disk) (visit : Path × Bool) : Option Path :=
  if visit.2 && visit.1.isShaderFamily then some ((disk.canonical? visit.1).getD visit.1) else none

/-- The shader files of a workspace, in the order in which a scan first comes to them. -/
def all (disk : Disk) (request : ScanRequest) : List Path :=
  ((places disk request).filterMap (shaderFile? disk)).eraseDups

/-- A shader file is reached from a root that is not excluded itself. Directories that are hidden, and what is
excluded, are not entered; a root may be hidden. -/
structure IsFound (disk : Disk) (request : ScanRequest) (root place file : Path) : Prop where
  isRoot : root ∈ request.roots
  included : root.isExcluded request.excludes = false
  reached : ∃ node content, disk.node? root = some node ∧
    DiskNode.Reaches (isAdmitted request.excludes) root node place (.file content)
  isShader : place.isShaderFamily = true
  canonical : file = (disk.canonical? place).getD place

theorem mem_places {place : Path} : (place, true) ∈ places disk request ↔
    ∃ root ∈ request.roots, root.isExcluded request.excludes = false ∧ ∃ node content, disk.node? root = some node ∧
      DiskNode.Reaches (isAdmitted request.excludes) root node place (.file content) := by
  rw [places, List.mem_flatMap]
  constructor
  · rintro ⟨root, isRoot, visited⟩
    rw [placesBelow] at visited
    split at visited
    · rename_i node there
      split at visited
      · cases visited
      · rename_i included
        obtain ⟨below, reaches, isFile⟩ := DiskNode.mem_walk_iff.1 visited
        cases below with
        | file content => exact ⟨root, isRoot, by simpa using included, node, content, there, reaches⟩
        | directory entries => cases isFile
    · cases visited
  · rintro ⟨root, isRoot, included, node, content, there, reaches⟩
    refine ⟨root, isRoot, ?_⟩
    rw [placesBelow, there]
    dsimp only
    rw [included, if_neg Bool.false_ne_true]
    exact reaches.mem_walk

theorem shaderFile?_eq_some_iff {visit : Path × Bool} {file : Path} :
    shaderFile? disk visit = some file ↔
      visit.2 = true ∧ visit.1.isShaderFamily = true ∧ file = (disk.canonical? visit.1).getD visit.1 := by
  rw [shaderFile?]
  constructor
  · intro found
    split at found
    · rename_i isShader
      rw [Bool.and_eq_true] at isShader
      exact ⟨isShader.1, isShader.2, (Option.some.inj found).symm⟩
    · cases found
  · rintro ⟨isFile, isShader, rfl⟩
    rw [isFile, isShader]
    rfl

/-- These are just the shader files that are reached. -/
theorem mem_all {file : Path} : file ∈ all disk request ↔ ∃ root place, IsFound disk request root place file := by
  rw [all, List.mem_eraseDups, List.mem_filterMap]
  constructor
  · rintro ⟨⟨place, isFile⟩, visited, found⟩
    obtain ⟨rfl, isShader, canonical⟩ := shaderFile?_eq_some_iff.1 found
    obtain ⟨root, isRoot, included, reached⟩ := mem_places.1 visited
    exact ⟨root, place, isRoot, included, reached, isShader, canonical⟩
  · rintro ⟨root, place, isRoot, included, reached, isShader, canonical⟩
    exact ⟨(place, true), mem_places.2 ⟨root, isRoot, included, reached⟩,
      shaderFile?_eq_some_iff.2 ⟨rfl, isShader, canonical⟩⟩

/-! ## Stopping -/

/-- The files found, with one more that may have been found before. -/
def withFile (found : List Path) (file : Path) : List Path :=
  if found.contains file then found else found ++ [file]

section

variable {found : List Path}

theorem nodup_withFile (nodup : found.Nodup) (file : Path) : (withFile found file).Nodup := by
  rw [withFile]
  split
  · exact nodup
  · rename_i fresh
    rw [List.nodup_append_comm, List.singleton_append, List.nodup_cons]
    exact ⟨by simpa using fresh, nodup⟩

theorem mem_withFile (found : List Path) (file : Path) : file ∈ withFile found file := by
  rw [withFile]
  split
  · rename_i known
    simpa using known
  · simp

theorem length_withFile_le (found : List Path) (file : Path) : (withFile found file).length ≤ found.length + 1 := by
  rw [withFile]
  split
  · omega
  · simp

theorem eraseDups_withFile_append (found : List Path) (file : Path) (more : List Path) :
    (withFile found file ++ more).eraseDups = (found ++ file :: more).eraseDups := by
  rw [withFile]
  split
  · rename_i known
    rw [eraseDups_append_cons_of_mem (by simpa using known)]
  · rw [List.append_assoc, List.singleton_append]

end

theorem collect_cons (asked : Nat) (found : List Path) (visit : Path × Bool) (rest : List (Path × Bool)) :
    collect disk request asked found (visit :: rest) =
      if request.oracle.cancels asked then (found, asked + 1)
      else
        match shaderFile? disk visit with
        | some file =>
          if request.maxFiles ≤ (withFile found file).length then (withFile found file, asked + 1)
          else collect disk request (asked + 1) (withFile found file) rest
        | none => collect disk request (asked + 1) found rest := by
  rw [collect, shaderFile?]
  cases visit.2 && visit.1.isShaderFamily <;> rfl

/-- What is found at last is a beginning of what has been found and all that is to come, and no more than allowed. If
nothing cancels the scan, it is as much as that. -/
theorem collect_spec {found : List Path} (nodup : found.Nodup) (room : found.length < max 1 request.maxFiles)
    (asked : Nat) (rest : List (Path × Bool)) :
    (collect disk request asked found rest).1 <+:
      ((found ++ rest.filterMap (shaderFile? disk)).eraseDups).take (max 1 request.maxFiles) ∧
    ((∀ k, request.oracle.cancels k = false) → (collect disk request asked found rest).1 =
      ((found ++ rest.filterMap (shaderFile? disk)).eraseDups).take (max 1 request.maxFiles)) := by
  induction rest generalizing found asked with
  | nil =>
    rw [collect, List.filterMap_nil, List.append_nil, eraseDups_eq_self nodup, List.take_of_length_le (by omega)]
    exact ⟨List.prefix_rfl, fun _ => rfl⟩
  | cons visit rest ih =>
    rw [collect_cons]
    split
    · rename_i cancels
      refine ⟨List.prefix_take_iff.2 ⟨isPrefix_eraseDups_append nodup _, by dsimp only; omega⟩, ?_⟩
      intro never
      rw [never] at cancels
      cases cancels
    · cases visited : shaderFile? disk visit with
      | none =>
        rw [List.filterMap_cons_none visited]
        exact ih nodup room (asked + 1)
      | some file =>
        rw [List.filterMap_cons_some visited, ← eraseDups_withFile_append]
        dsimp only
        have nodup' := nodup_withFile nodup file
        have most := length_withFile_le found file
        split
        · rename_i full
          -- the last file fills the room, also where there is room for none but one is taken
          have some := List.length_pos_of_mem (mem_withFile found file)
          have length : (withFile found file).length = max 1 request.maxFiles := by omega
          rw [← length, ← List.prefix_iff_eq_take.1 (isPrefix_eraseDups_append nodup' _)]
          exact ⟨List.prefix_rfl, fun _ => rfl⟩
        · exact ih nodup' (by omega) (asked + 1)

/-- A scan finds a beginning of all files, as long as it may be unless it is cancelled. -/
theorem files_spec (disk : Disk) (request : ScanRequest) :
    (files disk request).1 <+: (all disk request).take (max 1 request.maxFiles) ∧
    ((∀ k, request.oracle.cancels k = false) →
      (files disk request).1 = (all disk request).take (max 1 request.maxFiles)) :=
  collect_spec List.nodup_nil (by rw [List.length_nil]; omega) 0 _

end Discovery

end ShaderAnalysis
