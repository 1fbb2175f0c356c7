import ShaderAnalysis.Proofs.Workspace.Analysis

/-!
# Sound sessions

A session is sound if its open documents are consistent and the analyses that it keeps can be trusted.
Each step of a session keeps it so, provided that the documents which are opened and changed are dropped
from what is kept.
-/

namespace ShaderAnalysis

namespace Session

/-- Whether a document is open. -/
def IsOpen (s : Session) (uri : Uri) : Prop :=
  (s.view.documents.find? uri).isSome

/-- Another document in the place of one that is open. -/
def withDocument (s : Session) (uri : Uri) (d : Document) : Session :=
  { s with view.documents.documents := s.view.documents.documents.insert uri d }

theorem changeDocument?_eq (s : Session) (uri : Uri) (changes : List Change) (version : Int) :
    s.changeDocument? uri changes version = (s.view.documents.find? uri).map fun d =>
      (s.withDocument uri (d.applyChanges changes version).1, (d.applyChanges changes version).2) := by
  rw [changeDocument?, OpenDocuments.change?, Option.map_map]
  rfl

theorem isOpen_of_withDocument {s : Session} {uri other : Uri} {d d' : Document}
    (found : s.view.documents.find? uri = some d) (h : (s.withDocument uri d').IsOpen other) : s.IsOpen other := by
  rw [IsOpen, withDocument, OpenDocuments.find?, Table.find?_insert] at h
  split at h
  · rename_i same
    rw [same, IsOpen, found]
    rfl
  · exact h

/-- Another configuration changes neither files nor documents, nor what is kept of them. -/
theorem configure_keeps (s : Session) (config : IncludeConfig) :
    (s.configure config).1.view.disk = s.view.disk ∧ (s.configure config).1.view.documents = s.view.documents ∧
      (s.configure config).1.memo.analyses = s.memo.analyses := by
  unfold configure
  split
  · exact ⟨rfl, rfl, rfl⟩
  · exact ⟨rfl, rfl, rfl⟩

/-- The configuration that a session has does not change it. -/
theorem configure_self (s : Session) : (s.configure s.view.config).1 = s := by
  have same : s.view.config.same s.view.config = true := by simp [IncludeConfig.same]
  rw [configure, if_pos same]

/-- What dropping one analysis keeps, dropping several ones keeps. -/
theorem forgetAll_keeps {P : Session → Prop} (keeps : ∀ s file, P s → P (s.forget file)) (uris : List Uri)
    {s : Session} (h : P s) : P (uris.foldl (fun session uri => session.forget (.ofUri session.view.disk uri)) s) := by
  induction uris generalizing s with
  | nil => exact h
  | cons uri uris ih => exact ih (keeps s (.ofUri s.view.disk uri) h)

/-- No file is open under two URLs. -/
def HasOneUriPerFile (s : Session) : Prop :=
  ∀ uri other, s.IsOpen uri → s.IsOpen other →
    FileId.ofUri s.view.disk other = FileId.ofUri s.view.disk uri → other = uri

/-- The open documents are consistent, and what is kept can be trusted. -/
structure IsSound (had : FileId → String → Prop) (s : Session) : Prop where
  consistent : s.view.documents.IsConsistent s.view.disk
  trusted : s.memo.analyses.IsTrusted had s.view.documents

variable {had : FileId → String → Prop}

theorem isSound_start (disk : Disk) (config : IncludeConfig) : (start disk config).IsSound had where
  consistent := OpenDocuments.isConsistent_empty disk
  trusted := AnalysisCache.isTrusted_empty _

variable {s : Session} (sound : s.IsSound had)

include sound

theorem IsSound.openDocument (uri : Uri) (text : String) (version : Int) (languageId : String)
    (single : (s.openDocument uri text version languageId).HasOneUriPerFile) :
    ((s.openDocument uri text version languageId).forget (.ofUri s.view.disk uri)).IsSound had where
  consistent := by
    apply sound.consistent.openDocument
    intro other isOpen
    refine single uri other ?_ isOpen
    change ((s.view.documents.openDocument s.view.disk uri text version languageId).find? uri).isSome
    rw [OpenDocuments.find?_openDocument, if_pos rfl]
    rfl
  trusted := by
    apply sound.trusted.erase
    intro other elsewhere d leads
    rw [← leads]
    exact (sound.consistent.ofFile?_openDocument uri text version languageId elsewhere).symm

theorem IsSound.withDocument {uri : Uri} (isOpen : s.IsOpen uri) {d : Document} (indexed : d.IsIndexed) :
    ((s.withDocument uri d).forget (.ofUri s.view.disk uri)).IsSound had where
  consistent := sound.consistent.withDocument isOpen indexed
  trusted := by
    apply sound.trusted.erase
    intro other elsewhere e leads
    rw [← leads]
    exact (sound.consistent.ofFile?_withDocument elsewhere).symm

theorem IsSound.closeDocument (uri : Uri) : (s.closeDocument uri).IsSound had where
  consistent := sound.consistent.close uri
  trusted := sound.trusted.mono fun _ _ => sound.consistent.ofFile?_of_close

theorem IsSound.forget (file : FileId) : (s.forget file).IsSound had where
  consistent := sound.consistent
  trusted := sound.trusted.erase fun _ _ _ leads => leads

theorem IsSound.forgetAll (uris : List Uri) :
    (uris.foldl (fun session uri => session.forget (.ofUri session.view.disk uri)) s).IsSound had :=
  forgetAll_keeps (P := IsSound had) (fun _ file sound => sound.forget file) uris sound

theorem IsSound.configure (config : IncludeConfig) : (s.configure config).1.IsSound had := by
  obtain ⟨disk, documents, analyses⟩ := s.configure_keeps config
  constructor
  · rw [disk, documents]
    exact sound.consistent
  · rw [documents, analyses]
    exact sound.trusted

theorem IsSound.withDisk {disk : Disk}
    (stable : ∀ uri, s.IsOpen uri → FileId.ofUri disk uri = FileId.ofUri s.view.disk uri) :
    (s.withDisk disk).IsSound had where
  consistent := sound.consistent.onDisk stable
  trusted := sound.trusted

/-! ## Queries -/

section

variable (stands : ∀ file text, s.view.disk.HasText file text → had file text)
  (faithful : ∀ file text text', had file text → had file text' →
    Text.contentHash text = Text.contentHash text' → text = text')

include stands faithful

theorem IsSound.run_analysis (uri : Uri) :
    IsFresh (s.view.snapshot? uri) (s.run (·.analysis uri)).1 ∧ (s.run (·.analysis uri)).2.IsSound had := by
  obtain ⟨fresh, trusted⟩ := View.analyze_spec stands faithful sound.trusted
    fun _ seen => View.shows_of_snapshot? sound.consistent seen
  exact ⟨fresh, sound.consistent, trusted⟩

theorem IsSound.run_analysisAt (path : Path) :
    IsFresh (s.view.snapshotAt? path) (s.run (·.analysisAt path)).1 ∧ (s.run (·.analysisAt path)).2.IsSound had := by
  obtain ⟨fresh, trusted⟩ := View.analyze_spec stands faithful sound.trusted
    fun _ seen => View.shows_of_snapshotAt? seen
  exact ⟨fresh, sound.consistent, trusted⟩

end

end Session

end ShaderAnalysis
