import ShaderAnalysis.Code.Word
import ShaderAnalysis.Workspace.IncludeGraph

/-!
# Definitions

Where the name at a cursor is declared. Names are looked up from the innermost declaration around the
cursor outwards, then in included files, and at last in a library header or in the whole workspace.
-/

namespace ShaderAnalysis

/-- A place in a document. -/
structure Location where
  uri : Uri
  range : PositionRange
  deriving DecidableEq, Repr

/-- A way from a name to a declaration: all of it, and the name in it. -/
structure LocationLink where
  origin : PositionRange
  uri : Uri
  range : PositionRange
  selection : PositionRange
  deriving DecidableEq, Repr

/-- The name at a cursor and the symbol that it stands for. -/
structure Resolved where
  word : String
  origin : Span
  target : FoundSymbol

namespace FoundSymbol

/-- Where the name of the symbol stands. -/
def location (f : FoundSymbol) : Location :=
  ⟨f.uri, f.document.rangeOf f.symbol.selection⟩

/-- The way to the symbol from a name. -/
def linkFrom (f : FoundSymbol) (origin : PositionRange) : LocationLink :=
  ⟨origin, f.uri, f.document.rangeOf f.symbol.span, f.document.rangeOf f.symbol.selection⟩

end FoundSymbol

namespace Analysis

/-- The symbol of this name right below `parent`, or among the roots. -/
def child? (a : Analysis) (parent : Option Nat) (name : String) : Option FoundSymbol :=
  (a.outline.findChild? parent name).map (FoundSymbol.mk a)

/-- The declarations around `offset`, innermost first. -/
def scopes (a : Analysis) (offset : Nat) : List Nat :=
  (a.outline.stackAt offset).reverse

/-- The symbol of this name in the declarations around `offset`. -/
def inScopes? (a : Analysis) (offset : Nat) (name : String) : Option FoundSymbol :=
  (a.scopes offset).findSome? fun scope => a.child? (some scope) name

/-- The symbol of this name at one level, or in the shared regions of that level. -/
def atLevel? (a : Analysis) (name : String) (level : Option Nat) : Option FoundSymbol :=
  let shared := (a.outline.level level).filter fun id => (a.symbol id).isSharedRegion
  (a.child? level name).or (shared.findSome? fun region => a.child? (some region) name)

/-- The symbol of this name at the levels around `offset`, innermost first and the roots last. -/
def atLevels? (a : Analysis) (offset : Nat) (name : String) : Option FoundSymbol :=
  ((a.scopes offset).map some ++ [none]).findSome? (a.atLevel? name)

end Analysis

namespace View

/-- Takes every symbol. -/
def any (_ : Symbol) : Bool :=
  true

/-- The declaration of a name in code: around the cursor, in the document and what it includes, or in
the workspace if a scan is asked for. -/
def findInCode (v : View) (a : Analysis) (offset : Nat) (name : String) (scan : Option ScanRequest) :
    Query (Option FoundSymbol) := do
  match a.inScopes? offset name with
  | some found => return some found
  | none =>
    match ← v.find a name any with
    | some found => return some found
    | none =>
      match scan with
      | some request => v.findInWorkspace name request
      | none => return none

/-- The header of the library in which names of shaders are looked up last. -/
def libraryHeader : String := "UnityCG.cginc"

/-- The declaration of a name in a shader: around the cursor, in the files that the code regions
include, or in the header of the library. -/
def findInShader (v : View) (a : Analysis) (offset : Nat) (name : String) : Query (Option FoundSymbol) := do
  match a.atLevels? offset name with
  | some found => return some found
  | none =>
    match ← v.findIncluded a (← v.regionIncludes a) name any with
    | some found => return some found
    | none =>
      match v.config.library with
      | none => return none
      | some library =>
        match ← v.analysisAt (library.join libraryHeader) with
        | none => return none
        | some header => v.find header name any

/-- The name at a cursor, if it can be looked up: names in included paths, and in comments of code,
cannot. -/
def nameAt? (a : Analysis) (offset : Nat) : Option (String × Span) := do
  guard (Directive.at? (Directive.all a.text) offset).isNone
  let origin ← a.document.wordAt? offset
  let word := Text.slice a.text origin
  guard (isNavigable word)
  guard !(a.language == .hlsl && a.isInComment offset)
  return (word, origin)

/-- The symbol that the name at a position stands for. -/
def resolve (v : View) (a : Analysis) (position : Position) (scan : Option ScanRequest) :
    Query (Option Resolved) := do
  let named := do
    let offset ← a.document.offsetOf? position
    return (offset, ← nameAt? a offset)
  match named with
  | none => return none
  | some (offset, word, origin) =>
    let target ← match a.language with
      | .hlsl => v.findInCode a offset word scan
      | .shaderLab => v.findInShader a offset word
    return target.map (Resolved.mk word origin)

/-- The way to the declaration of the name at a position. -/
def definition (v : View) (uri : Uri) (position : Position) (scan : Option ScanRequest) :
    Query (Option LocationLink) := do
  match ← v.analysis uri with
  | none => return none
  | some a =>
    return (← v.resolve a position scan).map fun resolved =>
      resolved.target.linkFrom (a.document.rangeOf resolved.origin)

end View

end ShaderAnalysis
