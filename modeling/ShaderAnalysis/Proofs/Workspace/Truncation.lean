import ShaderAnalysis.Feature.DocumentSymbol
import ShaderAnalysis.Proofs.Workspace.Discovery

/-!
# Scans that are cut short

A scan asks at every place and before every file whether it is cancelled, and may be answered differently each time.
However it is answered, what it has looked at is a beginning of what it looks at if it is not cancelled
(`scan_isPrefix`), so a search finds nothing else (`scans_are_truncated`).
-/

namespace ShaderAnalysis

/-- The scan without cancellation. -/
def ScanRequest.uncancelled (request : ScanRequest) : ScanRequest :=
  { request with oracle := .never }

namespace View

variable {v : View} {stop : Analysis → Bool} {oracle : Oracle}

theorem scanFiles_cons (asked : Nat) (path : Path) (rest : List Path) (m : Memo) :
    v.scanFiles stop oracle asked (path :: rest) m =
      if oracle.cancels asked then (([], true), m)
      else
        match (v.analysisAt path m).1 with
        | none => v.scanFiles stop oracle (asked + 1) rest (v.analysisAt path m).2
        | some a =>
          if stop a then (([a], false), (v.analysisAt path m).2)
          else
            let behind := v.scanFiles stop oracle (asked + 1) rest (v.analysisAt path m).2
            ((a :: behind.1.1, behind.1.2), behind.2) := by
  rw [scanFiles]
  split
  · rfl
  · simp only [bind, StateT.bind]
    obtain ⟨found, m'⟩ := v.analysisAt path m
    cases found with
    | none => rfl
    | some a =>
      dsimp only
      split
      · rfl
      · rfl

/-- Of fewer files, a scan that may be cancelled looks at a beginning of what one looks at that is not. -/
theorem scanFiles_isPrefix {files more : List Path} (isPrefix : files <+: more) (asked asked' : Nat) (m : Memo) :
    (v.scanFiles stop oracle asked files m).1.1 <+: (v.scanFiles stop .never asked' more m).1.1 := by
  induction files generalizing more asked asked' m with
  | nil => exact List.nil_prefix
  | cons path files ih =>
    obtain ⟨behind, rfl⟩ := isPrefix
    have goesOn : ¬Oracle.never.cancels asked' = true := Bool.false_ne_true
    rw [List.cons_append, scanFiles_cons, scanFiles_cons, if_neg goesOn]
    split
    · exact List.nil_prefix
    · cases (v.analysisAt path m).1 with
      | none => exact ih (List.prefix_append ..) _ _ _
      | some a =>
        dsimp only
        split
        · exact List.prefix_rfl
        · exact (List.prefix_cons_inj a).2 (ih (List.prefix_append ..) _ _ _)

/-- Only the last file that a scan looks at can be the one that it is to stop at. -/
theorem stop_of_mem_dropLast {files : List Path} {asked : Nat} {m : Memo} {a : Analysis}
    (h : a ∈ (v.scanFiles stop oracle asked files m).1.1.dropLast) : stop a = false := by
  induction files generalizing asked m with
  | nil => cases h
  | cons path files ih =>
    rw [scanFiles_cons] at h
    split at h
    · cases h
    · cases found : (v.analysisAt path m).1 with
      | none =>
        rw [found] at h
        exact ih h
      | some b =>
        rw [found] at h
        dsimp only at h
        split at h
        · cases h
        · rename_i goesOn
          cases behind : (v.scanFiles stop oracle (asked + 1) files (v.analysisAt path m).2).1.1 with
          | nil =>
            rw [behind] at h
            cases h
          | cons c others =>
            rw [behind, List.dropLast_cons_cons] at h
            rcases List.mem_cons.1 h with rfl | later
            · simpa using goesOn
            · rw [← behind] at later
              exact ih later

/-- However a scan is cancelled, it has looked at a beginning of what it looks at if it is not. -/
theorem scan_isPrefix (stop : Analysis → Bool) (request : ScanRequest) (m : Memo) :
    (v.scan stop request m).1.1 <+: (v.scan stop request.uncancelled m).1.1 := by
  have files : (Discovery.files v.disk request).1 <+: (Discovery.files v.disk request.uncancelled).1 := by
    rw [(Discovery.files_spec v.disk request.uncancelled).2 fun _ => rfl]
    exact (Discovery.files_spec v.disk request).1
  exact scanFiles_isPrefix files _ _ m

theorem stop_of_mem_dropLast_scan {request : ScanRequest} {m : Memo} {a : Analysis}
    (h : a ∈ (v.scan stop request m).1.1.dropLast) : stop a = false :=
  stop_of_mem_dropLast h

/-! ## Searches -/

theorem workspaceSymbols_eq (query : String) (request : ScanRequest) (m : Memo) :
    (v.workspaceSymbols query request m).1 =
      if (Text.trim query.toList).length < minQueryLength then []
      else (v.scan never request m).1.1.flatMap (·.workspaceSymbols (Text.lower (Text.trim query.toList))) := by
  rw [workspaceSymbols]
  dsimp only
  split <;> rfl

theorem findInWorkspace_eq (name : String) (request : ScanRequest) (m : Memo) :
    (v.findInWorkspace name request m).1 =
      (v.scan (declares name fun _ => true) request m).1.1.getLast?.bind (·.find? name fun _ => true) := rfl

/-- The symbols that are found are the first ones of those that are found without cancellation. -/
theorem workspaceSymbols_isPrefix (query : String) (request : ScanRequest) (m : Memo) :
    (v.workspaceSymbols query request m).1 <+: (v.workspaceSymbols query request.uncancelled m).1 := by
  rw [workspaceSymbols_eq, workspaceSymbols_eq]
  split
  · exact List.prefix_rfl
  · obtain ⟨behind, whole⟩ := v.scan_isPrefix never request m
    rw [← whole, List.flatMap_append]
    exact List.prefix_append ..

/-- A symbol that is found is the one that is found without cancellation. -/
theorem findInWorkspace_none_or_eq (name : String) (request : ScanRequest) (m : Memo) :
    (v.findInWorkspace name request m).1 = none ∨
      (v.findInWorkspace name request m).1 = (v.findInWorkspace name request.uncancelled m).1 := by
  rw [findInWorkspace_eq, findInWorkspace_eq]
  obtain ⟨behind, whole⟩ := v.scan_isPrefix (declares name fun _ => true) request m
  cases last : (v.scan (declares name fun _ => true) request m).1.1.getLast? with
  | none => exact .inl rfl
  | some a =>
    cases found : a.find? name fun _ => true with
    | none =>
      left
      rw [Option.bind_some, found]
    | some symbol =>
      right
      have stops : declares name (fun _ => true) a = true := by
        rw [declares, found]
        rfl
      -- the scan without cancellation stops at this file too
      have nothing : behind = [] := by
        by_contra some
        have before : a ∈ (v.scan (declares name fun _ => true) request.uncancelled m).1.1.dropLast := by
          rw [← whole, List.dropLast_append_of_ne_nil some]
          exact List.mem_append_left _ (List.mem_of_getLast? last)
        rw [stop_of_mem_dropLast_scan before] at stops
        cases stops
      rw [← whole, nothing, List.append_nil, last]

/-- What cuts a scan of a workspace short does nothing else to it. All files are found once each, and they are just the
shader files that are reached. A scan finds the first ones of them, and one that is not cancelled as many as it may find
(at least one). A search for symbols finds the first ones of those that it finds without cancellation, and the
search for a name finds nothing, or what it finds without cancellation. -/
theorem scans_are_truncated (v : View) (request : ScanRequest) :
    let all := Discovery.all v.disk request
    all.Nodup ∧
    (∀ file, file ∈ all ↔ ∃ root place, Discovery.IsFound v.disk request root place file) ∧
    (Discovery.files v.disk request).1 <+: all ∧
    (Discovery.files v.disk request.uncancelled).1 = all.take (max 1 request.maxFiles) ∧
    (∀ query m, (v.workspaceSymbols query request m).1 <+: (v.workspaceSymbols query request.uncancelled m).1) ∧
    (∀ name m, (v.findInWorkspace name request m).1 = none ∨
      (v.findInWorkspace name request m).1 = (v.findInWorkspace name request.uncancelled m).1) := by
  intro all
  refine ⟨nodup_eraseDups _, fun _ => Discovery.mem_all, ?_, ?_, ?_, ?_⟩
  · exact (Discovery.files_spec v.disk request).1.trans (List.take_prefix ..)
  · exact (Discovery.files_spec v.disk request.uncancelled).2 fun _ => rfl
  · exact fun query m => workspaceSymbols_isPrefix query request m
  · exact fun name m => findInWorkspace_none_or_eq name request m

end View

end ShaderAnalysis
