import ShaderAnalysis.Proofs.Inclusion.Resolution
import ShaderAnalysis.Proofs.Workspace.Analysis
import ShaderAnalysis.Workspace.IncludeGraph

/-!
# What queries keep

Queries change what is kept, so a later step of a query could be told something else than it would have been
told at first. It is not: includes resolve as at first whatever has been looked up since
(`includes_stable`), and the analysis of a file is the same as at first as long as only other files have been
analyzed (`analysisAt_congr`).
-/

namespace ShaderAnalysis

/-! ## Running steps -/

theorem Query.run_bind {α β : Type} (x : Query α) (f : α → Query β) (m : Memo) : (x >>= f) m = f (x m).1 (x m).2 :=
  rfl

theorem Query.onRegistry_apply {α : Type} (step : StateM PackageRegistry α) (m : Memo) :
    onRegistry step m = ((step m.registry).1, { m with registry := (step m.registry).2 }) := rfl

/-- A step over a list whose answers do not depend on the states that it goes through. -/
theorem run_mapM {σ α β : Type} {step : α → StateM σ β} {value : α → β} {P : σ → Prop}
    (h : ∀ x s, P s → (step x s).1 = value x ∧ P (step x s).2) (xs : List α) {s : σ} (hs : P s) :
    (xs.mapM step s).1 = xs.map value ∧ P (xs.mapM step s).2 := by
  induction xs generalizing s with
  | nil => exact ⟨rfl, hs⟩
  | cons x xs ih =>
    obtain ⟨here, after⟩ := h x s hs
    obtain ⟨later, last⟩ := ih after
    rw [List.mapM_cons]
    constructor
    · rw [List.map_cons, ← here, ← later]
      rfl
    · exact last

theorem run_filterMap {σ α β γ : Type} (step : α → StateM σ β) (select : β → Option γ) (xs : List α) (s : σ) :
    (do return (← xs.mapM step).filterMap select : StateM σ (List γ)) s =
      ((xs.mapM step s).1.filterMap select, (xs.mapM step s).2) := rfl

namespace View

variable {v : View} {m : Memo}

/-! ## Analyses of files at plain paths -/

section

variable {p : Path} (plain : v.disk.HasPlain p)

include plain

theorem file_snapshotAt? {s : Snapshot} (h : v.snapshotAt? p = some s) : s.file = FileId.ofPath v.disk p := by
  simp only [snapshotAt?, Snapshot.ofPath?, plain.normal] at h
  split at h
  · cases h
    rfl
  · obtain ⟨uri, -, read⟩ := Option.bind_eq_some_iff.1 h
    obtain ⟨text, -, rfl⟩ := Option.map_eq_some_iff.1 read
    rfl

/-- What is kept of other files has no influence on the analysis of a file. -/
theorem analysisAt_congr {m' : Memo}
    (same : m'.analyses.find? (.ofPath v.disk p) = m.analyses.find? (.ofPath v.disk p)) :
    (v.analysisAt p m').1 = (v.analysisAt p m).1 := by
  rw [analysisAt]
  cases seen : v.snapshotAt? p with
  | none => rfl
  | some s =>
    rw [← file_snapshotAt? plain seen] at same
    exact AnalysisCache.analyze_congr same

/-- The analysis of a file changes nothing that is kept of other files. -/
theorem find?_analysisAt {file : FileId} (elsewhere : file ≠ .ofPath v.disk p) :
    (v.analysisAt p m).2.analyses.find? file = m.analyses.find? file := by
  rw [analysisAt]
  cases seen : v.snapshotAt? p with
  | none => rfl
  | some s =>
    rw [← file_snapshotAt? plain seen] at elsewhere
    exact AnalysisCache.find?_analyze elsewhere m.analyses

omit plain in
theorem registry_analysisAt : (v.analysisAt p m).2.registry = m.registry := by
  rw [analysisAt]
  cases v.snapshotAt? p with
  | none => rfl
  | some s => rfl

theorem isTakenOf_analysisAt (genuine : m.analyses.IsGenuine) {a : Analysis} (h : (v.analysisAt p m).1 = some a) :
    a.IsTakenOf (.ofPath v.disk p) := by
  rw [analysisAt] at h
  cases seen : v.snapshotAt? p with
  | none =>
    rw [seen] at h
    cases h
  | some s =>
    rw [seen] at h
    rw [← file_snapshotAt? plain seen]
    exact (genuine.analyze s).1 a h

/-- Every file at a plain path is known. -/
theorem mem_knownFiles : FileId.ofPath v.disk p ∈ v.knownFiles := by
  obtain ⟨c, found, listed⟩ := Disk.exists_mem_files plain.isFile
  rw [FileId.ofPath, found, Option.getD_some, knownFiles]
  apply List.mem_append_left
  exact List.mem_map.2 ⟨c, listed, rfl⟩

end

/-! ## Includes -/

/-- The registry of `m` is the one of `m₀`, except that the packages of the project may have been looked
up. -/
def Settles (v : View) (m₀ m : Memo) : Prop :=
  m.registry = m₀.registry ∨ m.registry = v.config.settled v.disk m₀.registry

variable {m₀ : Memo}

theorem resolveFrom_eq (source : Path) (literal : String) (m : Memo) :
    v.resolveFrom source literal m =
      ((v.config.resolve v.disk source literal m.registry).1,
        { m with registry := (v.config.resolve v.disk source literal m.registry).2 }) :=
  Query.onRegistry_apply _ m

/-- A path stands for the same file whatever has been looked up since. -/
theorem resolveFrom_stable (settles : v.Settles m₀ m) (source : Path) (literal : String) :
    (v.resolveFrom source literal m).1 = (v.resolveFrom source literal m₀).1 ∧
      v.Settles m₀ (v.resolveFrom source literal m).2 ∧
      (v.resolveFrom source literal m).2.analyses = m.analyses := by
  obtain ⟨keeps, again⟩ :=
    IncludeConfig.resolve_stable v.config v.disk source literal m₀.registry
  simp only [Settles, resolveFrom_eq, and_true]
  rcases settles with same | settled
  · rw [same]
    exact ⟨rfl, keeps⟩
  · rw [settled, again]
    exact ⟨rfl, .inr rfl⟩

/-- A document includes what its directives stand for, in their order and whatever has been looked up
since. -/
theorem includes_eq (settles : v.Settles m₀ m) (a : Analysis) {source : Path}
    (located : a.document.uri.toPath? = some source) :
    (v.includes a m).1 =
      (Directive.all a.text).filterMap (fun d => (v.resolveFrom source d.path m₀).1.map (·.1)) ∧
      v.Settles m₀ (v.includes a m).2 ∧ (v.includes a m).2.analyses = m.analyses := by
  have step : ∀ (d : Directive) s, v.Settles m₀ s ∧ s.analyses = m.analyses →
      (v.resolveFrom source d.path s).1 = (v.resolveFrom source d.path m₀).1 ∧
        v.Settles m₀ (v.resolveFrom source d.path s).2 ∧
        (v.resolveFrom source d.path s).2.analyses = m.analyses := by
    rintro d s ⟨settles, same⟩
    obtain ⟨here, after, analyses⟩ := resolveFrom_stable settles source d.path
    exact ⟨here, after, analyses.trans same⟩
  obtain ⟨answers, after⟩ := run_mapM step (Directive.all a.text) ⟨settles, rfl⟩
  simp only [includes, resolveAll, located, run_filterMap]
  refine ⟨?_, after⟩
  rw [answers, List.filterMap_map, Function.comp_def]

theorem includes_of_none (a : Analysis) (m : Memo) (nowhere : a.document.uri.toPath? = none) :
    v.includes a m = ([], m) := by
  rw [includes, resolveAll, nowhere]
  rfl

/-- A document includes the same whatever has been looked up since. -/
theorem includes_stable (settles : v.Settles m₀ m) (a : Analysis) :
    (v.includes a m).1 = (v.includes a m₀).1 ∧
      v.Settles m₀ (v.includes a m).2 ∧ (v.includes a m).2.analyses = m.analyses := by
  cases located : a.document.uri.toPath? with
  | none =>
    rw [includes_of_none a m located, includes_of_none a m₀ located]
    exact ⟨rfl, settles, rfl⟩
  | some source =>
    obtain ⟨answers, after⟩ := includes_eq settles a located
    obtain ⟨atFirst, -⟩ := includes_eq (.inl rfl) a located
    exact ⟨answers.trans atFirst.symm, after⟩

/-- What a document includes is a file at a plain path. -/
theorem hasPlain_of_mem_includes {a : Analysis} {p : Path} (h : p ∈ (v.includes a m).1) : v.disk.HasPlain p := by
  cases located : a.document.uri.toPath? with
  | none =>
    rw [includes_of_none a m located] at h
    cases h
  | some source =>
    obtain ⟨answers, -⟩ := includes_eq (m := m) (.inl rfl) a located
    rw [answers] at h
    obtain ⟨d, -, stands⟩ := List.mem_filterMap.1 h
    obtain ⟨found, resolved, rfl⟩ := Option.map_eq_some_iff.1 stands
    simp only [resolveFrom_eq] at resolved
    exact IncludeConfig.resolve_hasPlain resolved

end View

end ShaderAnalysis
