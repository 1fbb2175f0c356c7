import Mathlib.Data.List.Induction
import ShaderAnalysis.Proofs.Workspace.OpenDocuments
import ShaderAnalysis.Workspace.Snapshot

/-!
# Files that are open under several URLs

The index by files keeps one URL for each file: the one that was opened last, until that is closed
(`IsIndexOf`). So a file is found exactly as long as the URL that was opened last for it is open
(`ofFile?_run`). What is found is open, but a file that is still open under an older URL is not found, and
then its text is read from the disk.
-/

namespace ShaderAnalysis

namespace OpenDocuments

/-- What a client does with its documents. -/
inductive Operation where
  | opening (uri : Uri) (text : String) (version : Int) (languageId : String)
  | changing (uri : Uri) (changes : List Change) (version : Int)
  | closing (uri : Uri)

/-- The document at a URL, as this URL's own operations make it from the one that was there before. -/
def document? (uri : Uri) (before : Option Document) : Operation → Option Document
  | .opening other text version languageId =>
    if uri = other then some ((Document.new uri text version).withLanguageId languageId) else before
  | .changing other changes version =>
    if uri = other then before.map fun d => (d.applyChanges changes version).1 else before
  | .closing other => if uri = other then none else before

/-- The document that the client has open at a URL after these operations, if none was open before. -/
def current? (operations : List Operation) (uri : Uri) : Option Document :=
  operations.foldl (document? uri) none

section

variable (disk : Disk)

/-- The open documents after an operation. -/
def after (s : OpenDocuments) : Operation → OpenDocuments
  | .opening uri text version languageId => s.openDocument disk uri text version languageId
  | .changing uri changes version => ((s.change? uri changes version).map (·.1)).getD s
  | .closing uri => s.close uri

/-- The open documents after these operations, if none was open before. -/
def run (operations : List Operation) : OpenDocuments :=
  operations.foldl (after disk) empty

/-- The URL of the file that was opened last, given the one that was before. -/
def opened? (file : FileId) (before : Option Uri) : Operation → Option Uri
  | .opening uri _ _ _ => if FileId.ofUri disk uri = file then some uri else before
  | .changing .. | .closing _ => before

/-- The URL that was opened last for the file. -/
def lastOpened? (file : FileId) (operations : List Operation) : Option Uri :=
  operations.foldl (opened? disk file) none

end

/-! ## Documents by URL -/

theorem find?_change (s : OpenDocuments) (uri other : Uri) (changes : List Change) (version : Int) :
    (((s.change? uri changes version).map (·.1)).getD s).find? other =
      if other = uri then (s.find? other).map fun d => (d.applyChanges changes version).1 else s.find? other := by
  unfold change?
  cases found : s.find? uri with
  | none =>
    show s.find? other = _
    split
    · rename_i same
      rw [same, found]
      rfl
    · rfl
  | some d =>
    show Table.find? (s.documents.insert uri _) other = _
    rw [Table.find?_insert]
    split
    · rename_i same
      rw [same, found]
      rfl
    · rfl

/-- An operation does to the document at each URL what the client does to it. -/
theorem find?_after (disk : Disk) (s : OpenDocuments) (o : Operation) (uri : Uri) :
    (after disk s o).find? uri = document? uri (s.find? uri) o := by
  cases o with
  | opening other text version languageId =>
    rw [after, find?_openDocument, document?]
    split
    · rename_i same
      rw [same]
    · rfl
  | changing other changes version => exact find?_change s other uri changes version
  | closing other => exact find?_close other uri

theorem find?_run (disk : Disk) (operations : List Operation) (uri : Uri) :
    (run disk operations).find? uri = current? operations uri := by
  induction operations using List.reverseRecOn with
  | nil => rfl
  | append_singleton operations o ih =>
    simp only [run, current?, List.foldl_append, List.foldl_cons, List.foldl_nil] at ih ⊢
    rw [find?_after, ih]

/-! ## The index by files -/

/-- The index leads from each file to the URL that was opened last for it, if that is open. -/
structure IsIndexOf (disk : Disk) (s : OpenDocuments) (last? : FileId → Option Uri) : Prop where
  unique : s.byFile.keys.Nodup
  byFile : ∀ file, s.byFile.find? file = (last? file).filter fun uri => (s.find? uri).isSome
  origin : ∀ file uri, last? file = some uri → FileId.ofUri disk uri = file

section Index

variable {disk : Disk} {s : OpenDocuments} {last? : FileId → Option Uri} (index : s.IsIndexOf disk last?)

include index

theorem IsIndexOf.opening (uri : Uri) (text : String) (version : Int) (languageId : String) :
    (s.openDocument disk uri text version languageId).IsIndexOf disk fun file =>
      if FileId.ofUri disk uri = file then some uri else last? file where
  unique := Table.nodup_keys_insert index.unique ..
  byFile := by
    intro file
    rw [openDocument, Table.find?_insert]
    change _ = Option.filter (fun other => ((s.openDocument disk uri text version languageId).find? other).isSome) _
    by_cases here : FileId.ofUri disk uri = file
    · rw [if_pos here.symm, if_pos here, Option.filter_some_pos]
      rw [find?_openDocument, if_pos rfl]
      rfl
    · rw [if_neg (Ne.symm here), if_neg here, index.byFile]
      cases last : last? file with
      | none => rfl
      | some other =>
        -- another file's URL is not the one that is opened
        have distinct : other ≠ uri := by
          rintro rfl
          exact here (index.origin file other last)
        simp only [Option.filter_some, find?_openDocument, if_neg distinct]
  origin := by
    intro file other last
    split at last
    · cases last
      assumption
    · exact index.origin file other last

theorem IsIndexOf.closing (uri : Uri) : (s.close uri).IsIndexOf disk last? where
  unique := Table.nodup_keys_eraseWhere index.unique _
  byFile := by
    intro file
    rw [close, Table.find?_eraseWhere index.unique, index.byFile]
    change _ = Option.filter (fun other => ((s.close uri).find? other).isSome) _
    cases last? file with
    | none => rfl
    | some other =>
      cases found : s.find? other <;> by_cases same : other = uri <;>
        simp [Option.filter_some, find?_close, found, same]
  origin := index.origin

theorem IsIndexOf.changing (uri : Uri) (changes : List Change) (version : Int) :
    (((s.change? uri changes version).map (·.1)).getD s).IsIndexOf disk last? := by
  have sameIndex : (((s.change? uri changes version).map (·.1)).getD s).byFile = s.byFile := by
    unfold change?
    cases s.find? uri <;> rfl
  have sameOpen (other : Uri) :
      ((((s.change? uri changes version).map (·.1)).getD s).find? other).isSome = (s.find? other).isSome := by
    rw [find?_change]
    split <;> simp
  constructor
  · rw [sameIndex]
    exact index.unique
  · intro file
    rw [sameIndex, index.byFile]
    simp only [sameOpen]
  · exact index.origin

theorem IsIndexOf.after (o : Operation) :
    (after disk s o).IsIndexOf disk fun file => opened? disk file (last? file) o := by
  cases o with
  | opening uri text version languageId => exact index.opening uri text version languageId
  | changing uri changes version => exact index.changing uri changes version
  | closing uri => exact index.closing uri

omit index in
theorem isIndexOf_run (operations : List Operation) :
    (run disk operations).IsIndexOf disk fun file => lastOpened? disk file operations := by
  induction operations using List.reverseRecOn with
  | nil => exact ⟨Table.nodup_keys_empty, fun _ => rfl, fun _ _ last => by cases last⟩
  | append_singleton operations o ih =>
    simp only [run, lastOpened?, List.foldl_append, List.foldl_cons, List.foldl_nil] at ih ⊢
    exact ih.after o

theorem IsIndexOf.ofFile? (file : FileId) : s.ofFile? file = (last? file).bind s.find? := by
  rw [OpenDocuments.ofFile?, index.byFile]
  cases last? file with
  | none => rfl
  | some uri => cases found : s.find? uri <;> simp [Option.filter_some, found]

end Index

/-! ## What is found -/

section Found

variable (disk : Disk) (operations : List Operation) (file : FileId)

/-- The document at the URL that was opened last for the file, if that is still open. -/
def lastDocument? : Option Document :=
  (lastOpened? disk file operations).bind (current? operations)

/-- Some URL of the file is open. -/
def IsOpenFile : Prop :=
  ∃ uri, FileId.ofUri disk uri = file ∧ (current? operations uri).isSome

theorem ofFile?_run : (run disk operations).ofFile? file = lastDocument? disk operations file := by
  rw [(isIndexOf_run operations).ofFile?, lastDocument?]
  congr 1
  funext uri
  exact find?_run disk operations uri

variable {disk operations file}

theorem exists_of_lastDocument? {d : Document} (h : lastDocument? disk operations file = some d) :
    ∃ uri, FileId.ofUri disk uri = file ∧ current? operations uri = some d := by
  obtain ⟨uri, last, isOpen⟩ := Option.bind_eq_some_iff.1 h
  exact ⟨uri, (isIndexOf_run operations).origin file uri last, isOpen⟩

theorem isOpenFile_of_lastDocument? (h : (lastDocument? disk operations file).isSome) :
    IsOpenFile disk operations file := by
  obtain ⟨d, found⟩ := Option.isSome_iff_exists.1 h
  obtain ⟨uri, same, isOpen⟩ := exists_of_lastDocument? found
  exact ⟨uri, same, by rw [isOpen]; rfl⟩

variable (disk operations file)

/-- After any operations, what is found for a file is the document that some URL of the file has open, namely the
one that was opened last for it. It is found whenever a URL of the file is open if and only if this one is, and
then a path of the file leads to it, while in all other cases the disk is read. -/
theorem found_of_lastOpened :
    (∀ d, (run disk operations).ofFile? file = some d →
      ∃ uri, FileId.ofUri disk uri = file ∧ current? operations uri = some d) ∧
    (((run disk operations).ofFile? file).isSome ↔
      ∃ uri, lastOpened? disk file operations = some uri ∧ (current? operations uri).isSome) ∧
    ((((run disk operations).ofFile? file).isSome ↔ IsOpenFile disk operations file) ↔
      (IsOpenFile disk operations file →
        ∃ uri, lastOpened? disk file operations = some uri ∧ (current? operations uri).isSome)) ∧
    ∀ path, FileId.ofPath disk path.normalize = file →
      Snapshot.ofPath? disk (run disk operations) path =
        match lastDocument? disk operations file with
        | some d => some (.ofOpen file d)
        | none => (Uri.ofPath? path.normalize).bind (Snapshot.ofDisk? disk path.normalize) := by
  have found : (lastDocument? disk operations file).isSome ↔
      ∃ uri, lastOpened? disk file operations = some uri ∧ (current? operations uri).isSome := by
    unfold lastDocument?
    cases lastOpened? disk file operations <;> simp
  rw [ofFile?_run, ← found]
  refine ⟨fun d => exists_of_lastDocument?, Iff.rfl, ?_, ?_⟩
  · constructor
    · intro iff
      exact iff.2
    · intro h
      exact ⟨isOpenFile_of_lastDocument?, h⟩
  · rintro path rfl
    rw [← ofFile?_run]
    rfl

end Found

/-! ## A file with two URLs -/

/-- The URL of a shader. -/
def plainUri : Uri :=
  ⟨"file", some .empty, "/a.hlsl", none, none⟩

/-- Another URL of the same shader. -/
def escapedUri : Uri :=
  ⟨"file", some .empty, "/%61.hlsl", none, none⟩

/-- A disk with this shader. -/
def aliasDisk : Disk :=
  ⟨.directory [("a.hlsl", .file "float disk;".toUTF8)]⟩

/-- The shader is opened under both URLs, and closed under the first one. -/
def closedFirst : List Operation :=
  [.opening plainUri "float buffer;" 1 "hlsl", .opening escapedUri "float alias;" 1 "hlsl", .closing plainUri]

/-- The shader is found under the URL that was opened last. -/
theorem closedFirst_finds_escapedUri : ∃ d : Document,
    current? closedFirst escapedUri = some d ∧ d.text = "float alias;" ∧
    Snapshot.ofPath? aliasDisk (run aliasDisk closedFirst) ⟨"/a.hlsl"⟩ = some (.ofOpen ⟨"/a.hlsl"⟩ d) := by
  have file : FileId.ofPath aliasDisk (Path.normalize ⟨"/a.hlsl"⟩) = ⟨"/a.hlsl"⟩ := by decide +kernel
  have last : lastOpened? aliasDisk ⟨"/a.hlsl"⟩ closedFirst = some escapedUri := by decide +kernel
  refine ⟨_, rfl, by decide +kernel, ?_⟩
  rw [(found_of_lastOpened aliasDisk closedFirst ⟨"/a.hlsl"⟩).2.2.2 _ file, lastDocument?, last]
  rfl

/-- The shader is opened under both URLs, and closed under the second one. -/
def closedAlias : List Operation :=
  [.opening plainUri "float buffer;" 1 "hlsl", .opening escapedUri "float alias;" 1 "hlsl", .closing escapedUri]

theorem ofUri_plainUri : FileId.ofUri aliasDisk plainUri = ⟨"/a.hlsl"⟩ := by
  decide +kernel

theorem isOpenFile_closedAlias : IsOpenFile aliasDisk closedAlias ⟨"/a.hlsl"⟩ :=
  ⟨plainUri, ofUri_plainUri, by decide +kernel⟩

/-- The shader is still open under the first URL, but it is not found, and its text is the one on the disk. -/
theorem closedAlias_hides_plainUri :
    (current? closedAlias plainUri).map (·.text) = some "float buffer;" ∧
    ¬(((run aliasDisk closedAlias).ofFile? (.ofUri aliasDisk plainUri)).isSome ↔
      IsOpenFile aliasDisk closedAlias (.ofUri aliasDisk plainUri)) ∧
    (Snapshot.ofPath? aliasDisk (run aliasDisk closedAlias) ⟨"/a.hlsl"⟩).map (·.document.text) =
      some "float disk;" := by
  refine ⟨by decide +kernel, ?_, by decide +kernel⟩
  rw [ofUri_plainUri]
  intro iff
  have lost : ((run aliasDisk closedAlias).ofFile? ⟨"/a.hlsl"⟩).isSome = false := by decide +kernel
  exact Bool.false_ne_true (lost.symm.trans (iff.2 isOpenFile_closedAlias))

end OpenDocuments

end ShaderAnalysis
