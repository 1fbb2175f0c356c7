import ShaderAnalysis.Feature.Completion
import ShaderAnalysis.Feature.DocumentLink
import ShaderAnalysis.Feature.DocumentSymbol
import ShaderAnalysis.Feature.Hover
import ShaderAnalysis.Feature.SemanticToken
import ShaderAnalysis.Feature.SignatureHelp
import ShaderAnalysis.Format.Document

/-!
# Answers as JSON

How answers are written for the client, as the language server protocol prescribes. Members without
a value are left out.
-/

namespace ShaderAnalysis

namespace Json

/-- A text that is shown with markup. -/
def markdown (value : String) : Json :=
  .object [("kind", .text "markdown"), ("value", .text value)]

/-- A URL. -/
def ofUri (u : Uri) : Json :=
  .text u.text

/-- The array of the values. -/
def ofList {α : Type} (encode : α → Json) (values : List α) : Json :=
  .array (values.map encode)

end Json

def Position.toJson (p : Position) : Json :=
  .object [("line", .nat p.line), ("character", .nat p.character)]

def PositionRange.toJson (r : PositionRange) : Json :=
  .object [("start", r.start.toJson), ("end", r.stop.toJson)]

def TextEdit.toJson (e : TextEdit) : Json :=
  .object [("range", e.range.toJson), ("newText", .text e.newText)]

def Location.toJson (l : Location) : Json :=
  .object [("uri", .ofUri l.uri), ("range", l.range.toJson)]

def LocationLink.toJson (l : LocationLink) : Json :=
  .object [("originSelectionRange", l.origin.toJson), ("targetUri", .ofUri l.uri),
    ("targetRange", l.range.toJson), ("targetSelectionRange", l.selection.toJson)]

def Hover.toJson (h : Hover) : Json :=
  .ofMembers [("contents", some (.markdown h.markdown)), ("range", h.range.map (·.toJson))]

def DocumentLink.toJson (l : DocumentLink) : Json :=
  .ofMembers [("range", some l.range.toJson), ("target", l.target.map .ofUri), ("tooltip", l.tooltip.map .text)]

/-! ## Symbols -/

/-- The number of a kind of symbol. -/
def SymbolKind.code : SymbolKind → Nat
  | .file => 1
  | .module => 2
  | .package => 4
  | .class_ => 5
  | .method => 6
  | .property => 7
  | .field => 8
  | .function => 12
  | .variable => 13
  | .constant => 14
  | .struct => 23

mutual

def DocumentSymbol.toJson : DocumentSymbol → Json
  | .node name detail kind range selection children =>
    .ofMembers [("name", some (.text name)), ("detail", if detail.isEmpty then none else some (.text detail)),
      ("kind", some (.nat kind.code)), ("range", some range.toJson), ("selectionRange", some selection.toJson),
      ("children", if children.isEmpty then none else some (.array (DocumentSymbol.toJsons children)))]

def DocumentSymbol.toJsons : List DocumentSymbol → List Json
  | [] => []
  | s :: rest => s.toJson :: DocumentSymbol.toJsons rest

end

def WorkspaceSymbol.toJson (s : WorkspaceSymbol) : Json :=
  .ofMembers [("name", some (.text s.name)), ("kind", some (.nat s.kind.code)),
    ("location", some s.location.toJson), ("containerName", s.container.map .text)]

/-! ## Completions and signatures -/

/-- The number of a kind of completion. -/
def CompletionKind.code : CompletionKind → Nat
  | .function => 3
  | .field => 5
  | .variable => 6
  | .class_ => 7
  | .property => 10
  | .keyword => 14
  | .snippet => 15
  | .constant => 21
  | .struct => 22

/-- The command that shows the signature of a call that has been inserted. -/
def signatureHelpCommand : Json :=
  .object [("title", .text "Trigger Signature Help"), ("command", .text "editor.action.triggerParameterHints")]

def CompletionItem.toJson (i : CompletionItem) : Json :=
  .ofMembers [("label", some (.text i.label)),
    ("labelDetails", i.description.map fun d => .ofMembers [("description", d.map .text)]),
    ("kind", some (.nat i.kind.code)), ("detail", i.detail.map .text),
    ("documentation", i.documentation.map .markdown), ("sortText", i.sortText.map .text),
    ("filterText", i.filterText.map .text), ("insertText", i.insertText.map .text),
    ("insertTextFormat", i.hasPlaceholders.map fun b => .nat (if b then 2 else 1)),
    ("command", if i.opensSignatureHelp then some signatureHelpCommand else none)]

def ParameterInfo.toJson (p : ParameterInfo) : Json :=
  .ofMembers [("label", some (.text p.label)), ("documentation", p.documentation.map .text)]

def SignatureInfo.toJson (s : SignatureInfo) : Json :=
  .ofMembers [("label", some (.text s.label)), ("documentation", s.documentation.map .markdown),
    ("parameters", some (.ofList ParameterInfo.toJson s.parameters))]

def SignatureHelp.toJson (h : SignatureHelp) : Json :=
  .object [("signatures", .ofList SignatureInfo.toJson h.signatures), ("activeSignature", .nat h.active),
    ("activeParameter", .nat h.argument)]

/-! ## Semantic tokens -/

/-- The five numbers of a token; tokens have no modifiers. -/
def EncodedToken.numbers (t : EncodedToken) : List Nat :=
  [t.deltaLine, t.deltaStart, t.length, t.type, 0]

/-- All tokens as one row of numbers. -/
def EncodedToken.listToJson (tokens : List EncodedToken) : Json :=
  .object [("data", .ofList .nat (tokens.flatMap numbers))]

end ShaderAnalysis
