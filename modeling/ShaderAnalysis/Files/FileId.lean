import ShaderAnalysis.Files.Disk
import ShaderAnalysis.Files.Uri

/-!
# Identity of files

Several URLs and paths can name one file. Files are told apart by their one path on the disk; what is
not on the disk is told apart by its name.
-/

namespace ShaderAnalysis

/-- The identity of a file: its one path, or what it is called if it does not exist. -/
structure FileId where
  text : String
  deriving DecidableEq, Repr, Inhabited

namespace FileId

/-- The identity of the file at a path. -/
def ofPath (disk : Disk) (p : Path) : FileId :=
  ⟨((disk.canonical? p).getD p).text⟩

/-- The identity of the document at a URL. -/
def ofUri (disk : Disk) (uri : Uri) : FileId :=
  match uri.toPath? with
  | some p => ofPath disk p
  | none => ⟨uri.text⟩

end FileId

end ShaderAnalysis
