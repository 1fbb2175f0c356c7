import ShaderAnalysis.Feature.Definition
import ShaderAnalysis.Text.Lowercase

/-!
# Symbols for the client

The outline of a document as a tree, and the symbols of a whole workspace whose names contain a text.
-/

namespace ShaderAnalysis

/-- A symbol with the symbols below it. -/
inductive DocumentSymbol where
  | node (name detail : String) (kind : SymbolKind) (range selection : PositionRange)
      (children : List DocumentSymbol)
  deriving Repr

/-- A symbol of a workspace, and the name of the symbol above it. -/
structure WorkspaceSymbol where
  name : String
  kind : SymbolKind
  location : Location
  container : Option String
  deriving DecidableEq, Repr

namespace Analysis

/-- A symbol with all symbols below it. -/
def symbolBelow (a : Analysis) (id : Nat) : DocumentSymbol :=
  let s := a.symbol id
  .node s.name s.detail s.kind (a.document.rangeOf s.span) (a.document.rangeOf s.selection)
    ((a.outline.descendants id).attach.map fun child => a.symbolBelow child.1)
termination_by a.outline.size - id
decreasing_by
  have := Outline.mem_descendants child.2
  omega

/-- The outline as a tree. -/
def documentSymbols (a : Analysis) : List DocumentSymbol :=
  a.outline.roots.map a.symbolBelow

/-- Whether a name contains a text in lower case. -/
def matchesName (needle : List Char) (name : String) : Bool :=
  Text.hasInfix needle (Text.lower name.toList)

/-- A symbol for the whole workspace. -/
def workspaceSymbol (a : Analysis) (id : Nat) : WorkspaceSymbol :=
  let s := a.symbol id
  ⟨s.name, s.kind, (FoundSymbol.mk a id).location, (a.outline.parent? id).map fun above => (a.symbol above).name⟩

/-- The symbols whose names contain a text in lower case. -/
def workspaceSymbols (a : Analysis) (needle : List Char) : List WorkspaceSymbol :=
  (a.outline.preorder.filter fun id => matchesName needle (a.symbol id).name).map a.workspaceSymbol

end Analysis

namespace View

/-- The outline of the document at a URL. -/
def documentSymbols (v : View) (uri : Uri) : Query (Option (List DocumentSymbol)) := do
  return (← v.analysis uri).map (·.documentSymbols)

/-- The least number of characters that a workspace is searched for. -/
def minQueryLength : Nat := 2

/-- The symbols of a workspace whose names contain a text, whatever its case. -/
def workspaceSymbols (v : View) (query : String) (request : ScanRequest) : Query (List WorkspaceSymbol) := do
  let query := Text.trim query.toList
  if query.length < minQueryLength then return []
  let (scanned, _) ← v.scan never request
  return scanned.flatMap (·.workspaceSymbols (Text.lower query))

end View

end ShaderAnalysis
