import ShaderAnalysis.Document.Edit
import ShaderAnalysis.Files.FileId
import ShaderAnalysis.Workspace.Table

/-!
# Open documents

The documents that the client has open, by URL. They can also be found by the identity of their
file, so that a path which is spelled in another way still leads to the open document.
-/

namespace ShaderAnalysis

/-- The documents that are open. -/
structure OpenDocuments where
  documents : Table Uri Document
  byFile : Table FileId Uri
  deriving Repr

namespace OpenDocuments

/-- No document is open. -/
def empty : OpenDocuments :=
  ⟨.empty, .empty⟩

instance : Inhabited OpenDocuments := ⟨empty⟩

/-- Opens a document in the language that the client names. -/
def openDocument (s : OpenDocuments) (disk : Disk) (uri : Uri) (text : String) (version : Int)
    (languageId : String) : OpenDocuments :=
  ⟨s.documents.insert uri ((Document.new uri text version).withLanguageId languageId),
    s.byFile.insert (.ofUri disk uri) uri⟩

/-- The open document of a URL. -/
def find? (s : OpenDocuments) (uri : Uri) : Option Document :=
  s.documents.find? uri

/-- The open document of a file, whatever its URL. -/
def ofFile? (s : OpenDocuments) (file : FileId) : Option Document :=
  (s.byFile.find? file).bind s.find?

/-- Changes an open document, as far as the changes can be applied; none if it is not open. -/
def change? (s : OpenDocuments) (uri : Uri) (changes : List Change) (version : Int) :
    Option (OpenDocuments × Option EditFault) :=
  (s.find? uri).map fun document =>
    let (document, fault) := document.applyChanges changes version
    ({ s with documents := s.documents.insert uri document }, fault)

/-- Closes a document. -/
def close (s : OpenDocuments) (uri : Uri) : OpenDocuments :=
  ⟨s.documents.erase uri, s.byFile.eraseWhere (· == uri)⟩

end OpenDocuments

end ShaderAnalysis
