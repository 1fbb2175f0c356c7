import ShaderAnalysis.Proofs.Workspace.OpenDocuments
import ShaderAnalysis.Workspace.Session

/-!
# Analyses that can be trusted

Neither the version of an open document nor the hash of a file determines the text. An analysis that is
kept can be used all the same if it has the text of what is open, as long as it was taken from an open
document, and a text that its file has had on the disk, if it was taken from there. Taking analyses keeps
it that way (`analyze_spec`), and so does every change of the open documents after which the analysis of
the one file that it touches is dropped (`IsTrusted.erase`). In any case an analysis is kept under the file
that it was taken from (`IsGenuine`).
-/

namespace ShaderAnalysis

/-! ## What analyzing does -/

namespace AnalysisCache

variable {s : Snapshot} {cache : AnalysisCache}

theorem analyze_of_none (h : s.document.language = none) (cache : AnalysisCache) : analyze s cache = (none, cache) := by
  rw [analyze, h]
  rfl

theorem analyze_of_kept {language : Language} (known : s.document.language = some language) {a : Analysis}
    (kept : (Table.find? cache s.file).filter (·.isCurrent s language) = some a) :
    analyze s cache = (some a, cache) := by
  simp only [analyze, known, bind, StateT.bind, get, getThe, MonadStateOf.get, StateT.get, pure, kept]
  rfl

theorem analyze_of_taken {language : Language} (known : s.document.language = some language)
    (kept : (Table.find? cache s.file).filter (·.isCurrent s language) = none) :
    analyze s cache = (some (.ofSnapshot s language), Table.insert cache s.file (.ofSnapshot s language)) := by
  simp only [analyze, known, bind, StateT.bind, get, getThe, MonadStateOf.get, StateT.get, pure, kept]
  rfl

/-- The analysis of a snapshot only depends on what is kept of its file. -/
theorem analyze_congr {cache' : AnalysisCache} (same : Table.find? cache' s.file = Table.find? cache s.file) :
    (analyze s cache').1 = (analyze s cache).1 := by
  cases known : s.document.language with
  | none => rw [analyze_of_none known, analyze_of_none known]
  | some language =>
    cases kept : (Table.find? cache s.file).filter (·.isCurrent s language) with
    | some a => rw [analyze_of_kept known kept, analyze_of_kept known (by rw [same]; exact kept)]
    | none => rw [analyze_of_taken known kept, analyze_of_taken known (by rw [same]; exact kept)]

/-- Taking the analysis of a snapshot only changes what is kept of its file. -/
theorem find?_analyze {file : FileId} (elsewhere : file ≠ s.file) (cache : AnalysisCache) :
    Table.find? (analyze s cache).2 file = Table.find? cache file := by
  cases known : s.document.language with
  | none => rw [analyze_of_none known]
  | some language =>
    cases kept : (Table.find? cache s.file).filter (·.isCurrent s language) with
    | some a => rw [analyze_of_kept known kept]
    | none => rw [analyze_of_taken known kept, Table.find?_insert, if_neg elsewhere]

end AnalysisCache

/-! ## Analyses under their files -/

/-- The analysis was taken from a snapshot of the file. -/
def Analysis.IsTakenOf (a : Analysis) (file : FileId) : Prop :=
  ∃ s language, a = .ofSnapshot s language ∧ s.file = file

theorem Analysis.IsTakenOf.file {a : Analysis} {file : FileId} (h : a.IsTakenOf file) : a.file = file := by
  obtain ⟨s, language, rfl, same⟩ := h
  exact same

namespace AnalysisCache

/-- Every analysis is kept under its own file. -/
def IsGenuine (cache : AnalysisCache) : Prop :=
  ∀ file a, cache.find? file = some a → a.IsTakenOf file

theorem isGenuine_empty : IsGenuine .empty := by
  intro file a found
  cases found

variable {cache : AnalysisCache} (genuine : cache.IsGenuine)

include genuine

theorem IsGenuine.erase (file : FileId) : IsGenuine (Table.erase cache file) := by
  intro other a found
  rw [Table.find?_erase] at found
  split at found
  · cases found
  · exact genuine other a found

/-- The analysis of a snapshot is taken from one of its file, and is kept under that file if at all. -/
theorem IsGenuine.analyze (s : Snapshot) :
    (∀ a, (analyze s cache).1 = some a → a.IsTakenOf s.file) ∧ IsGenuine (analyze s cache).2 := by
  cases known : s.document.language with
  | none =>
    rw [analyze_of_none known]
    refine ⟨?_, genuine⟩
    intro a h
    cases h
  | some language =>
    cases kept : (Table.find? cache s.file).filter (·.isCurrent s language) with
    | some b =>
      rw [analyze_of_kept known kept]
      refine ⟨?_, genuine⟩
      intro a h
      cases h
      exact genuine s.file b (Option.filter_eq_some_iff.1 kept).1
    | none =>
      rw [analyze_of_taken known kept]
      constructor
      · intro a h
        cases h
        exact ⟨s, language, rfl, rfl⟩
      · intro file a found
        rw [Table.find?_insert] at found
        split at found
        · rename_i here
          cases found
          exact ⟨s, language, rfl, here.symm⟩
        · exact genuine file a found

end AnalysisCache

theorem View.isGenuine_analyze {m : Memo} (genuine : m.analyses.IsGenuine) (seen : Option Snapshot) :
    (analyze seen m).2.analyses.IsGenuine := by
  cases seen with
  | none => exact genuine
  | some s => exact (genuine.analyze s).2

/-! ## Snapshots -/

/-- A file on the disk has the text, under some path. -/
def Disk.HasText (disk : Disk) (file : FileId) (text : String) : Prop :=
  ∃ path, FileId.ofPath disk path = file ∧ disk.readText? path = some text

/-- The snapshots that a view can show: open documents, and files with the texts that they have. -/
inductive View.Shows (v : View) : Snapshot → Prop where
  | opened {file : FileId} {d : Document} (leads : v.documents.ofFile? file = some d) : Shows v (.ofOpen file d)
  | read {path : Path} {text : String} (uri : Uri) (stands : v.disk.readText? path = some text) :
      Shows v ⟨.ofPath v.disk path, .new uri text 0, .content (Text.contentHash text)⟩

theorem View.shows_of_ofDisk? {v : View} {path : Path} {uri : Uri} {s : Snapshot}
    (h : Snapshot.ofDisk? v.disk path uri = some s) : v.Shows s := by
  obtain ⟨text, stands, rfl⟩ := Option.map_eq_some_iff.1 h
  exact .read uri stands

theorem View.shows_of_snapshot? {v : View} (consistent : v.documents.IsConsistent v.disk) {uri : Uri} {s : Snapshot}
    (h : v.snapshot? uri = some s) : v.Shows s := by
  rw [snapshot?, Snapshot.ofUri?] at h
  simp only [consistent.find?_or] at h
  split at h
  · rename_i d leads
    cases h
    exact .opened leads
  · obtain ⟨path, -, read⟩ := Option.bind_eq_some_iff.1 h
    exact shows_of_ofDisk? read

theorem View.shows_of_snapshotAt? {v : View} {path : Path} {s : Snapshot} (h : v.snapshotAt? path = some s) :
    v.Shows s := by
  simp only [snapshotAt?, Snapshot.ofPath?] at h
  split at h
  · rename_i d leads
    cases h
    exact .opened leads
  · obtain ⟨uri, -, read⟩ := Option.bind_eq_some_iff.1 h
    exact shows_of_ofDisk? read

/-! ## Answers -/

/-- The analysis says of the snapshot what its text says, read anew. -/
structure Analysis.IsOf (a : Analysis) (s : Snapshot) : Prop where
  text : a.document.text = s.document.text
  language : s.document.language = some a.language
  outline : a.outline = .extract a.language s.document.text

/-- The answer to a query that saw this: an analysis of just that, and none only of what is in no known
language. -/
structure IsFresh (seen : Option Snapshot) (answer : Option Analysis) : Prop where
  isOf : ∀ a, answer = some a → ∃ s, seen = some s ∧ a.IsOf s
  isNone : answer = none → ∀ s, seen = some s → s.document.language = none

/-! ## Trust -/

section

variable (had : FileId → String → Prop)

/-- The analysis was taken from its text, which is that of what is open, or one that the file had. -/
structure Analysis.IsTrusted (open_ : OpenDocuments) (file : FileId) (a : Analysis) : Prop where
  outline : a.outline = .extract a.language a.document.text
  version : ∀ n, a.fingerprint = .version n → ∀ d, open_.ofFile? file = some d → a.document.text = d.text
  content : ∀ hash, a.fingerprint = .content hash → hash = Text.contentHash a.document.text ∧ had file a.document.text

/-- All analyses that are kept can be trusted. -/
def AnalysisCache.IsTrusted (open_ : OpenDocuments) (cache : AnalysisCache) : Prop :=
  ∀ file a, cache.find? file = some a → a.IsTrusted had open_ file

end

variable {had : FileId → String → Prop}

theorem AnalysisCache.isTrusted_empty (open_ : OpenDocuments) : IsTrusted had open_ .empty := by
  intro file a found
  cases found

/-- What leads to other documents for one file leaves the analyses of the others to be trusted. -/
theorem AnalysisCache.IsTrusted.erase {open_ open' : OpenDocuments} {cache : AnalysisCache}
    (trusted : cache.IsTrusted had open_) {file : FileId}
    (elsewhere : ∀ other ≠ file, ∀ d, open'.ofFile? other = some d → open_.ofFile? other = some d) :
    AnalysisCache.IsTrusted had open' (Table.erase cache file) := by
  intro other a found
  rw [Table.find?_erase] at found
  split at found
  · cases found
  · rename_i differs
    have before := trusted other a found
    exact ⟨before.outline, fun n version d leads => before.version n version d (elsewhere other differs d leads),
      before.content⟩

/-- What only makes fewer documents be found leaves all analyses to be trusted. -/
theorem AnalysisCache.IsTrusted.mono {open_ open' : OpenDocuments} {cache : AnalysisCache}
    (trusted : cache.IsTrusted had open_)
    (fewer : ∀ file d, open'.ofFile? file = some d → open_.ofFile? file = some d) : cache.IsTrusted had open' := by
  intro file a found
  have before := trusted file a found
  exact ⟨before.outline, fun n version d leads => before.version n version d (fewer file d leads), before.content⟩

/-! ## Taking analyses -/

section

variable {v : View} (stands : ∀ file text, v.disk.HasText file text → had file text)

include stands

/-- An analysis that was just taken can be trusted. -/
theorem Analysis.isTrusted_ofSnapshot {s : Snapshot} (shown : v.Shows s) (language : Language) :
    (ofSnapshot s language).IsTrusted had v.documents s.file where
  outline := rfl
  version := by
    intro n version d leads
    cases shown with
    | opened leads' =>
      cases leads.symm.trans leads'
      rfl
    | read uri read => cases version
  content := by
    intro hash content
    cases shown with
    | opened leads => cases content
    | read uri read =>
      cases content
      exact ⟨rfl, stands _ _ ⟨_, rfl, read⟩⟩

/-- An analysis that can be trusted and is current is one of the snapshot. -/
theorem Analysis.IsTrusted.isOf
    (faithful : ∀ file text text', had file text → had file text' →
      Text.contentHash text = Text.contentHash text' → text = text')
    {a : Analysis} {s : Snapshot} (trusted : a.IsTrusted had v.documents s.file) (shown : v.Shows s)
    {language : Language} (known : s.document.language = some language) (current : a.isCurrent s language) :
    a.IsOf s := by
  simp only [isCurrent, Bool.and_eq_true, beq_iff_eq] at current
  obtain ⟨fingerprint, rfl⟩ := current
  have text : a.document.text = s.document.text := by
    cases shown with
    | opened leads => exact trusted.version _ fingerprint _ leads
    | read uri read =>
      obtain ⟨same, hadText⟩ := trusted.content _ fingerprint
      exact faithful _ _ _ hadText (stands _ _ ⟨_, rfl, read⟩) same.symm
  refine ⟨text, known, ?_⟩
  rw [trusted.outline, text]

/-- The analysis of a snapshot is one of just that snapshot, whatever is kept, and it may be kept. -/
theorem AnalysisCache.analyze_spec
    (faithful : ∀ file text text', had file text → had file text' →
      Text.contentHash text = Text.contentHash text' → text = text')
    {cache : AnalysisCache} (trusted : cache.IsTrusted had v.documents) {s : Snapshot} (shown : v.Shows s) :
    IsFresh (some s) (analyze s cache).1 ∧ IsTrusted had v.documents (analyze s cache).2 := by
  cases known : s.document.language with
  | none =>
    rw [analyze_of_none known]
    refine ⟨⟨?_, ?_⟩, trusted⟩
    · intro _ h
      cases h
    · intro _ _ h
      cases h
      exact known
  | some language =>
    cases kept : (Table.find? cache s.file).filter (·.isCurrent s language) with
    | some a =>
      obtain ⟨found, current⟩ := Option.filter_eq_some_iff.1 kept
      rw [analyze_of_kept known kept]
      refine ⟨⟨?_, fun h => by cases h⟩, trusted⟩
      intro _ h
      cases h
      exact ⟨s, rfl, (trusted s.file a found).isOf stands faithful shown known current⟩
    | none =>
      rw [analyze_of_taken known kept]
      refine ⟨⟨?_, fun h => by cases h⟩, ?_⟩
      · intro _ h
        cases h
        exact ⟨s, rfl, rfl, known, rfl⟩
      · intro file a found
        rw [Table.find?_insert] at found
        split at found
        · rename_i here
          cases found
          rw [here]
          exact Analysis.isTrusted_ofSnapshot stands shown language
        · exact trusted file a found

/-- What a query is told of what it sees is said of just that, and the analyses can be trusted as before. -/
theorem View.analyze_spec
    (faithful : ∀ file text text', had file text → had file text' →
      Text.contentHash text = Text.contentHash text' → text = text')
    {memo : Memo} (trusted : memo.analyses.IsTrusted had v.documents) {seen : Option Snapshot}
    (shown : ∀ s, seen = some s → v.Shows s) :
    IsFresh seen (View.analyze seen memo).1 ∧ (View.analyze seen memo).2.analyses.IsTrusted had v.documents := by
  cases seen with
  | none =>
    refine ⟨⟨?_, ?_⟩, trusted⟩
    · intro _ h
      cases h
    · intro _ _ h
      cases h
  | some s => exact AnalysisCache.analyze_spec stands faithful trusted (shown s rfl)

end

end ShaderAnalysis
