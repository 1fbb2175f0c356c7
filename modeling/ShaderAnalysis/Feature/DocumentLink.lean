import ShaderAnalysis.Workspace.IncludeGraph

/-!
# Document links

Every path in an include directive is a link to the included file. A link that leads nowhere says
why.
-/

namespace ShaderAnalysis

/-- A link in a document. -/
structure DocumentLink where
  range : PositionRange
  target : Option Uri
  tooltip : Option String
  deriving DecidableEq, Repr

/-- What a link says whose file cannot be found. -/
def Directive.missingText (d : Directive) : String :=
  if d.isPackagePath then
    "Cannot find package file: " ++ d.path ++
      "\nConfigure shaderlab-analyzer.packageMappings or unityProjectPath"
  else
    "Cannot find file: " ++ d.path

namespace View

/-- The link of a directive in the document at a URL. -/
def link (v : View) (uri : Uri) (d : Document) (directive : Directive) : Query DocumentLink := do
  let target := (← v.resolveAll uri [directive]).head?.bind Uri.ofPath?
  return ⟨d.rangeOf directive.pathSpan, target, if target.isNone then some directive.missingText else none⟩

/-- The links of a document. -/
def links (v : View) (uri : Uri) : Query (List DocumentLink) := do
  match ← v.analysis uri with
  | none => return []
  | some a => (Directive.all a.text).mapM (v.link uri a.document)

end View

end ShaderAnalysis
