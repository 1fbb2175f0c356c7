import ShaderAnalysis.Feature.SemanticToken
import ShaderAnalysis.Json.Basic

/-!
# Capabilities

What the server tells a client about itself, and the words that both use for it.
-/

namespace ShaderAnalysis.Server

/-- The name of the server. -/
def name : String := "shaderlab-analyzer"

/-- The version of the server. -/
def version : String := "0.1.0"

/-- The command that formats a shader. -/
def formatCommand : String := "shaderlab-analyzer.formatShaderLab"

def texts (items : List String) : Json :=
  .array (items.map .text)

/-- The types of semantic tokens; there are no modifiers. -/
def tokenLegend : Json :=
  .object [("tokenTypes", texts (TokenType.legend.map TokenType.name)), ("tokenModifiers", .array [])]

/-- The features of the server. -/
def capabilities : Json :=
  .object [
    ("textDocumentSync", .nat 2),
    ("completionProvider", .object [("triggerCharacters", texts [".", ":", "("])]),
    ("hoverProvider", .bool true),
    ("definitionProvider", .bool true),
    ("signatureHelpProvider", .object [("triggerCharacters", texts ["(", ","])]),
    ("documentLinkProvider", .object [("resolveProvider", .bool false)]),
    ("documentSymbolProvider", .bool true),
    ("workspaceSymbolProvider", .bool true),
    ("semanticTokensProvider",
      .object [("legend", tokenLegend), ("full", .bool true), ("range", .bool false)]),
    ("documentFormattingProvider", .bool true),
    ("executeCommandProvider", .object [("commands", texts [formatCommand])]),
    ("workspace",
      .object [("workspaceFolders", .object [("supported", .bool true), ("changeNotifications", .bool true)])])]

/-- The answer to a client that starts. -/
def introduction : Json :=
  .object [("capabilities", capabilities),
    ("serverInfo", .object [("name", .text name), ("version", .text version)])]

end ShaderAnalysis.Server
