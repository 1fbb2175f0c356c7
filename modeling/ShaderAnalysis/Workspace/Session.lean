import ShaderAnalysis.Inclusion.Resolution
import ShaderAnalysis.Workspace.Analysis

/-!
# Sessions

A session is what all queries of a client work on: what they see, and what they keep. Queries do not
change what they see. What they keep only saves work: analyses of documents, and the packages of the
project.
-/

namespace ShaderAnalysis

/-- What queries see. -/
structure View where
  disk : Disk
  documents : OpenDocuments
  config : IncludeConfig
  deriving Inhabited

/-- What queries keep. -/
structure Memo where
  analyses : AnalysisCache
  registry : PackageRegistry
  deriving Repr, Inhabited

/-- A query. -/
abbrev Query := StateM Memo

/-- A session. -/
structure Session where
  view : View
  memo : Memo
  deriving Inhabited

namespace Memo

/-- Nothing is kept. -/
def empty : Memo :=
  ⟨.empty, .empty⟩

end Memo

namespace Query

/-- Runs a step on the analyses. -/
def onAnalyses {α : Type} (step : StateM AnalysisCache α) : Query α := do
  let memo ← get
  let (result, analyses) := step memo.analyses
  set { memo with analyses }
  return result

/-- Runs a step on the packages. -/
def onRegistry {α : Type} (step : StateM PackageRegistry α) : Query α := do
  let memo ← get
  let (result, registry) := step memo.registry
  set { memo with registry }
  return result

end Query

namespace View

/-- The snapshot of the document at a URL. -/
def snapshot? (v : View) (uri : Uri) : Option Snapshot :=
  Snapshot.ofUri? v.disk v.documents uri

/-- The snapshot of the file at a path. -/
def snapshotAt? (v : View) (path : Path) : Option Snapshot :=
  Snapshot.ofPath? v.disk v.documents path

/-- The analysis of a snapshot, if there is one. -/
def analyze (s : Option Snapshot) : Query (Option Analysis) := do
  match s with
  | some s => Query.onAnalyses (AnalysisCache.analyze s)
  | none => return none

/-- The analysis of the document at a URL. -/
def analysis (v : View) (uri : Uri) : Query (Option Analysis) :=
  analyze (v.snapshot? uri)

/-- The analysis of the file at a path. -/
def analysisAt (v : View) (path : Path) : Query (Option Analysis) :=
  analyze (v.snapshotAt? path)

/-- The file that a path stands for in the file `source`, and where it was found. -/
def resolveFrom (v : View) (source : Path) (literal : String) : Query (Option Candidate) :=
  Query.onRegistry (v.config.resolve v.disk source literal)

/-- The files that directives in a document stand for, in order. -/
def resolveAll (v : View) (uri : Uri) (directives : List Directive) : Query (List Path) := do
  match uri.toPath? with
  | none => return []
  | some source => return (← directives.mapM fun d => v.resolveFrom source d.path).filterMap (·.map (·.1))

/-- The files that a document includes, in order. -/
def includes (v : View) (a : Analysis) : Query (List Path) :=
  v.resolveAll a.document.uri (Directive.all a.text)

/-- The files that the code regions of a document include, in order. -/
def regionIncludes (v : View) (a : Analysis) : Query (List Path) :=
  let regions := ((a.outline.preorder.map a.symbol).filter Symbol.isCodeRegion).map (·.span)
  v.resolveAll a.document.uri ((Directive.all a.text).filter fun d => regions.any (·.covers d.span))

end View

namespace Session

/-- A session in which nothing is open. -/
def start (disk : Disk) (config : IncludeConfig) : Session :=
  ⟨⟨disk, .empty, config⟩, .empty⟩

/-- The answer to a query, and the session after it. -/
def run {α : Type} (s : Session) (query : View → Query α) : α × Session :=
  let (answer, memo) := query s.view s.memo
  (answer, { s with memo })

/-- Opens a document. -/
def openDocument (s : Session) (uri : Uri) (text : String) (version : Int) (languageId : String) : Session :=
  { s with view.documents := s.view.documents.openDocument s.view.disk uri text version languageId }

/-- Closes a document. -/
def closeDocument (s : Session) (uri : Uri) : Session :=
  { s with view.documents := s.view.documents.close uri }

/-- Changes an open document, as far as the changes can be applied; none if it is not open. -/
def changeDocument? (s : Session) (uri : Uri) (changes : List Change) (version : Int) :
    Option (Session × Option EditFault) :=
  (s.view.documents.change? uri changes version).map fun (documents, fault) =>
    ({ s with view.documents := documents }, fault)

/-- Another configuration; the packages are looked up again if it leads to other places. -/
def configure (s : Session) (config : IncludeConfig) : Session × Bool :=
  if s.view.config.same config then (s, false)
  else ({ s with view.config := config, memo.registry := .empty }, true)

/-- Looks the packages of the project up again when they are needed next. -/
def forgetPackages (s : Session) : Session :=
  { s with memo.registry := .empty }

/-- Drops the analysis of a file. -/
def forget (s : Session) (file : FileId) : Session :=
  { s with memo.analyses := s.memo.analyses.erase file }

/-- Another disk. -/
def withDisk (s : Session) (disk : Disk) : Session :=
  { s with view.disk := disk }

end Session

end ShaderAnalysis
