import ShaderAnalysis.Proofs.Document.Offset
import ShaderAnalysis.Workspace.OpenDocuments

/-!
# Open documents and their files

As long as no file is open under two URLs, the index by files is exactly the converse of the identity of
files on what is open. Opening and changing a document only touch what is found under its own file, and
closing makes nothing be found that was not.

The keys of a table are those that have a value, and no operation makes a key occur twice. Where each key
occurs once, erasing by values erases the keys that lead to them (`find?_eraseWhere`).
-/

namespace ShaderAnalysis

namespace Table

variable {κ α : Type}

theorem nodup_keys_empty : (empty : Table κ α).keys.Nodup :=
  List.nodup_nil

theorem nodup_keys_eraseWhere {t : Table κ α} (unique : t.keys.Nodup) (p : α → Bool) : (t.eraseWhere p).keys.Nodup :=
  unique.sublist (List.filter_sublist.map _)

variable [DecidableEq κ]

theorem mem_keys {t : Table κ α} {key : κ} : key ∈ t.keys ↔ (t.find? key).isSome := by
  simp [keys, find?]

theorem nodup_keys_erase {t : Table κ α} (unique : t.keys.Nodup) (key : κ) : (t.erase key).keys.Nodup :=
  unique.sublist (List.filter_sublist.map _)

theorem nodup_keys_insert {t : Table κ α} (unique : t.keys.Nodup) (key : κ) (value : α) :
    (t.insert key value).keys.Nodup := by
  refine List.nodup_cons.2 ⟨?_, nodup_keys_erase unique key⟩
  intro member
  have found := mem_keys.1 member
  rw [find?_erase, if_pos rfl] at found
  cases found

theorem find?_eraseWhere {t : Table κ α} (unique : t.keys.Nodup) (p : α → Bool) (key : κ) :
    (t.eraseWhere p).find? key = (t.find? key).filter (!p ·) := by
  obtain ⟨entries⟩ := t
  simp only [find?, eraseWhere, keys] at *
  induction entries with
  | nil => rfl
  | cons e entries ih =>
    obtain ⟨fresh, unique⟩ := List.nodup_cons.1 unique
    by_cases here : e.1 = key
    · cases erased : p e.2
      · rw [List.filter_cons_of_pos (by simp [erased])]
        simp only [here, decide_true, List.find?_cons_of_pos, Option.map_some]
        rw [Option.filter_some_pos (by simp [erased])]
      · -- no entry behind this one has the key
        have behind : entries.find? (fun e => decide (e.1 = key)) = none := by
          rw [List.find?_eq_none]
          intro other member same
          exact fresh (List.mem_map.2 ⟨other, member, (of_decide_eq_true same).trans here.symm⟩)
        rw [List.filter_cons_of_neg (by simp [erased]), ih unique, behind]
        simp only [here, decide_true, List.find?_cons_of_pos, Option.map_some, Option.map_none]
        rw [Option.filter_some_neg (by simp [erased])]
        rfl
    · rw [List.find?_cons_of_neg (by simpa using here), ← ih unique, List.filter_cons]
      split
      · rw [List.find?_cons_of_neg (by simpa using here)]
      · rfl

end Table

namespace OpenDocuments

/-- The open documents have the tables of their texts, and are the ones that their files lead to. -/
structure IsConsistent (disk : Disk) (s : OpenDocuments) : Prop where
  indexed : ∀ uri d, s.find? uri = some d → d.IsIndexed
  unique : s.byFile.keys.Nodup
  byFile : ∀ file uri, s.byFile.find? file = some uri ↔ (s.find? uri).isSome ∧ FileId.ofUri disk uri = file

theorem isConsistent_empty (disk : Disk) : empty.IsConsistent disk where
  indexed := by
    intro uri d h
    cases h
  unique := Table.nodup_keys_empty
  byFile := by simp [empty, find?]

variable {disk : Disk} {s : OpenDocuments} (consistent : s.IsConsistent disk)

include consistent

/-! ## Files of open documents -/

theorem IsConsistent.ofFile?_ofUri {uri : Uri} {d : Document} (h : s.find? uri = some d) :
    s.ofFile? (.ofUri disk uri) = some d := by
  have leads := (consistent.byFile (.ofUri disk uri) uri).2 ⟨by rw [h]; rfl, rfl⟩
  rw [ofFile?, leads]
  exact h

theorem IsConsistent.exists_of_ofFile? {file : FileId} {d : Document} (h : s.ofFile? file = some d) :
    ∃ uri, s.byFile.find? file = some uri ∧ FileId.ofUri disk uri = file ∧ s.find? uri = some d := by
  obtain ⟨uri, leads, found⟩ := Option.bind_eq_some_iff.1 h
  exact ⟨uri, leads, ((consistent.byFile file uri).1 leads).2, found⟩

/-- A document that is open under the URL is the one that the file of the URL leads to. -/
theorem IsConsistent.find?_or (uri : Uri) :
    (s.find? uri).or (s.ofFile? (.ofUri disk uri)) = s.ofFile? (.ofUri disk uri) := by
  cases h : s.find? uri with
  | none => rfl
  | some d =>
    rw [consistent.ofFile?_ofUri h]
    rfl

/-- A document leaves those of other files as they are. -/
theorem IsConsistent.ofFile?_withDocument {uri : Uri} {d : Document} {file : FileId}
    (elsewhere : file ≠ .ofUri disk uri) :
    ofFile? { s with documents := s.documents.insert uri d } file = s.ofFile? file := by
  rw [ofFile?, ofFile?]
  cases leads : s.byFile.find? file with
  | none => rfl
  | some other =>
    have same := ((consistent.byFile file other).1 leads).2
    rw [Option.bind_some, Option.bind_some, find?, Table.find?_insert,
      if_neg (fun h => elsewhere (by rw [← same, h])), find?]

/-! ## Opening -/

section Opening

variable (uri : Uri) (text : String) (version : Int) (languageId : String)

omit consistent in
theorem find?_openDocument (other : Uri) :
    (s.openDocument disk uri text version languageId).find? other =
      if other = uri then some ((Document.new uri text version).withLanguageId languageId) else s.find? other :=
  Table.find?_insert ..

theorem IsConsistent.openDocument
    (single : ∀ other, ((s.openDocument disk uri text version languageId).find? other).isSome →
      FileId.ofUri disk other = FileId.ofUri disk uri → other = uri) :
    (s.openDocument disk uri text version languageId).IsConsistent disk where
  indexed := by
    intro other d found
    rw [find?_openDocument] at found
    split at found
    · cases found
      exact (Document.isIndexed_new ..).withLanguageId languageId
    · exact consistent.indexed other d found
  unique := Table.nodup_keys_insert consistent.unique ..
  byFile := by
    intro file other
    constructor
    · intro leads
      rw [OpenDocuments.openDocument, Table.find?_insert] at leads
      rw [find?_openDocument]
      split at leads
      · rename_i same
        cases leads
        exact ⟨by rw [if_pos rfl]; rfl, same.symm⟩
      · obtain ⟨isOpen, same⟩ := (consistent.byFile file other).1 leads
        refine ⟨?_, same⟩
        split
        · rfl
        · exact isOpen
    · rintro ⟨isOpen, same⟩
      rw [OpenDocuments.openDocument, Table.find?_insert]
      split
      · rename_i here
        rw [single other isOpen (same.trans here)]
      · rename_i elsewhere
        rw [find?_openDocument, if_neg (fun h => elsewhere (by rw [← same, h]))] at isOpen
        exact (consistent.byFile file other).2 ⟨isOpen, same⟩

theorem IsConsistent.ofFile?_openDocument {file : FileId} (elsewhere : file ≠ .ofUri disk uri) :
    (s.openDocument disk uri text version languageId).ofFile? file = s.ofFile? file := by
  rw [← consistent.ofFile?_withDocument elsewhere, ofFile?, OpenDocuments.openDocument, Table.find?_insert,
    if_neg elsewhere]
  rfl

end Opening

/-! ## Changing -/

theorem IsConsistent.withDocument {uri : Uri} (isOpen : (s.find? uri).isSome) {d : Document} (indexed : d.IsIndexed) :
    IsConsistent disk { s with documents := s.documents.insert uri d } where
  indexed := by
    intro other e found
    rw [find?, Table.find?_insert] at found
    split at found
    · cases found
      exact indexed
    · exact consistent.indexed other e found
  unique := consistent.unique
  byFile := by
    intro file other
    rw [find?, Table.find?_insert, consistent.byFile]
    split
    · rename_i same
      rw [same]
      simp only [isOpen, Option.isSome_some]
    · rfl

/-! ## Closing -/

omit consistent in
theorem find?_close (uri other : Uri) : (s.close uri).find? other = if other = uri then none else s.find? other :=
  Table.find?_erase ..

theorem IsConsistent.close (uri : Uri) : (s.close uri).IsConsistent disk where
  indexed := by
    intro other d found
    rw [find?_close] at found
    split at found
    · cases found
    · exact consistent.indexed other d found
  unique := Table.nodup_keys_eraseWhere consistent.unique _
  byFile := by
    intro file other
    rw [OpenDocuments.close, Table.find?_eraseWhere consistent.unique, Option.filter_eq_some_iff, consistent.byFile]
    change _ ↔ ((s.close uri).find? other).isSome ∧ _
    rw [find?_close]
    by_cases same : other = uri <;> simp [same]

theorem IsConsistent.ofFile?_of_close {uri : Uri} {file : FileId} {d : Document}
    (h : (s.close uri).ofFile? file = some d) : s.ofFile? file = some d := by
  obtain ⟨other, leads, -, found⟩ := (consistent.close uri).exists_of_ofFile? h
  rw [OpenDocuments.close, Table.find?_eraseWhere consistent.unique, Option.filter_eq_some_iff] at leads
  rw [find?_close] at found
  split at found
  · cases found
  · rw [ofFile?, leads.1]
    exact found

/-! ## Other disks -/

/-- On a disk where the open documents are still the same files, they are found as before. -/
theorem IsConsistent.onDisk {disk' : Disk}
    (stable : ∀ uri, (s.find? uri).isSome → FileId.ofUri disk' uri = FileId.ofUri disk uri) : s.IsConsistent disk' where
  indexed := consistent.indexed
  unique := consistent.unique
  byFile := by
    intro file uri
    rw [consistent.byFile]
    constructor <;> rintro ⟨isOpen, same⟩
    · exact ⟨isOpen, (stable uri isOpen).trans same⟩
    · exact ⟨isOpen, (stable uri isOpen).symm.trans same⟩

end OpenDocuments

end ShaderAnalysis
