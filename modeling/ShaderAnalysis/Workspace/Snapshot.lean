import ShaderAnalysis.Text.Hash
import ShaderAnalysis.Workspace.OpenDocuments

/-!
# Snapshots

What a query sees of a document: the open document, if there is one, else the file on the disk. The
fingerprint tells whether two snapshots of a file have the same text: open documents have versions,
of files the content is hashed.
-/

namespace ShaderAnalysis

/-- What a text is recognised by. -/
inductive Fingerprint where
  | version (n : Int)
  | content (hash : UInt64)
  deriving DecidableEq, Repr, Inhabited

/-- A document as one query sees it. -/
structure Snapshot where
  file : FileId
  document : Document
  fingerprint : Fingerprint
  deriving Repr, Inhabited

namespace Snapshot

/-- The path that the document says it has. -/
def path? (s : Snapshot) : Option Path :=
  s.document.uri.toPath?

/-- The snapshot of an open document. -/
def ofOpen (file : FileId) (document : Document) : Snapshot :=
  ⟨file, document, .version document.version⟩

/-- The snapshot of a file that the document at a URL is read from. -/
def ofDisk? (disk : Disk) (path : Path) (uri : Uri) : Option Snapshot :=
  (disk.readText? path).map fun text =>
    ⟨.ofPath disk path, .new uri text 0, .content (Text.contentHash text)⟩

/-- The snapshot of the document at a URL. -/
def ofUri? (disk : Disk) (open_ : OpenDocuments) (uri : Uri) : Option Snapshot :=
  let file := FileId.ofUri disk uri
  match (open_.find? uri).or (open_.ofFile? file) with
  | some document => some (ofOpen file document)
  | none => do ofDisk? disk (← uri.toPath?) uri

/-- The snapshot of the file at a path. -/
def ofPath? (disk : Disk) (open_ : OpenDocuments) (path : Path) : Option Snapshot :=
  let path := path.normalize
  let file := FileId.ofPath disk path
  match open_.ofFile? file with
  | some document => some (ofOpen file document)
  | none => do ofDisk? disk path (← Uri.ofPath? path)

end Snapshot

end ShaderAnalysis
