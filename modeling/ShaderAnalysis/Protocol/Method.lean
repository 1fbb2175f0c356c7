import ShaderAnalysis.Json.Writer
import ShaderAnalysis.Protocol.Form

/-!
# Methods of the protocol

The methods that a client can name, each a request or a notification, and the parameters that go with
them, as the language server protocol prescribes. A server knows all of these methods, also those that it
does nothing about.
-/

namespace ShaderAnalysis

namespace Form

/-! ## Parts of parameters -/

/-- A text or number that the client chose. -/
def workToken : Form :=
  .record "WorkDoneProgressParams" [("workDoneToken", .optional .token)]

def partialResultToken : Form :=
  .record "PartialResultParams" [("partialResultToken", .optional .token)]

def position : Form :=
  .record "Position" [("line", .unsigned), ("character", .unsigned)]

def range : Form :=
  .record "Range" [("start", position), ("end", position)]

def document : Form :=
  .record "TextDocumentIdentifier" [("uri", .url)]

def documentVersion : Form :=
  .record "VersionedTextDocumentIdentifier" [("uri", .url), ("version", .signed)]

def documentItem : Form :=
  .record "TextDocumentItem" [("uri", .url), ("languageId", .text), ("version", .signed), ("text", .text)]

/-- A document and a place in it. -/
def place : Form :=
  .record "TextDocumentPositionParams" [("textDocument", document), ("position", position)]

def change : Form :=
  .record "TextDocumentContentChangeEvent"
    [("range", .optional range), ("rangeLength", .optional .unsigned), ("text", .text)]

def folder : Form :=
  .record "WorkspaceFolder" [("uri", .url), ("name", .text)]

def formattingOptions : Form :=
  .joined "FormattingOptions" [("tabSize", .unsigned), ("insertSpaces", .bool),
    ("trimTrailingWhitespace", .optional .bool), ("insertFinalNewline", .optional .bool),
    ("trimFinalNewlines", .optional .bool)] []

/-- A function or type in a hierarchy. -/
def hierarchyItem (name : String) : Form :=
  .record name [("name", .text), ("kind", .signed), ("tags", .optional .any), ("detail", .optional .text),
    ("uri", .url), ("range", range), ("selectionRange", range), ("data", .optional .any)]

def command : Form :=
  .record "Command" [("title", .text), ("command", .text), ("arguments", .optional (.list .any))]

/-! ## Parameters -/

/-- The parameters of a request about a document, which is answered piece by piece. -/
def aboutDocument (name : String) (members : List (String × Form)) : Form :=
  .joined name (("textDocument", document) :: members) [workToken, partialResultToken]

/-- The parameters of a request about a place, which is answered piece by piece. -/
def aboutPlace (name : String) (members : List (String × Form)) : Form :=
  .joined name members [place, workToken, partialResultToken]

/-- The parameters of a request about a place, which is answered at once. -/
def atPlace (name : String) (members : List (String × Form)) : Form :=
  .joined name members [place, workToken]

/-- The parameters of a request about an item of a hierarchy. -/
def aboutItem (name itemName : String) : Form :=
  .joined name [("item", hierarchyItem itemName)] [workToken, partialResultToken]

/-- The parameters of a message about several files. -/
def aboutFiles (name fileName : String) (members : List String) : Form :=
  .record name [("files", .list (.record fileName (members.map (·, .text))))]

def initialization : Form :=
  .record "InitializeParams" [("processId", .optional .unsigned), ("rootPath", .optional .text),
    ("rootUri", .optional .url), ("initializationOptions", .optional .any),
    ("capabilities", .joined "ClientCapabilities" [] []), ("trace", .optional .any),
    ("workspaceFolders", .optional (.list folder)),
    ("clientInfo", .optional (.record "ClientInfo" [("name", .text), ("version", .optional .text)])),
    ("locale", .optional .text)]

def completionContext : Form :=
  .record "CompletionContext" [("triggerKind", .signed), ("triggerCharacter", .optional .text)]

def signatureHelpContext : Form :=
  .record "SignatureHelpContext" [("triggerKind", .signed), ("triggerCharacter", .optional .text),
    ("isRetrigger", .bool), ("activeSignatureHelp", .optional .any)]

def foldersEvent : Form :=
  .record "WorkspaceFoldersChangeEvent" [("added", .list folder), ("removed", .list folder)]

end Form

/-- A method: whether messages with it are answered, and the form of their parameters, if they have any. -/
structure Method where
  isRequest : Bool
  form : Option Form
  deriving Repr

namespace Method

open Form

/-- A method of requests with parameters. -/
def request (form : Form) : Method :=
  ⟨true, some form⟩

/-- A method of notifications with parameters. -/
def notification (form : Form) : Method :=
  ⟨false, some form⟩

/-- The method of this name that is about the life of the server. -/
def ofLifeName? : String → Option Method
  | "initialize" => request initialization
  | "initialized" => notification (.record "InitializedParams" [])
  | "shutdown" => some ⟨true, none⟩
  | "exit" => some ⟨false, none⟩
  | "$/cancelRequest" => notification (.record "CancelParams" [("id", .token)])
  | _ => none

/-- The method of this name that is about the text of a document. -/
def ofDocumentName? : String → Option Method
  | "textDocument/didOpen" => notification (.record "DidOpenTextDocumentParams" [("textDocument", documentItem)])
  | "textDocument/didChange" => notification (.record "DidChangeTextDocumentParams"
      [("textDocument", documentVersion), ("contentChanges", .list change)])
  | "textDocument/willSave" => notification (.record "WillSaveTextDocumentParams"
      [("textDocument", document), ("reason", .signed)])
  | "textDocument/willSaveWaitUntil" => request (.record "WillSaveTextDocumentParams"
      [("textDocument", document), ("reason", .signed)])
  | "textDocument/didSave" => notification (.record "DidSaveTextDocumentParams"
      [("textDocument", document), ("text", .optional .text)])
  | "textDocument/didClose" => notification (.record "DidCloseTextDocumentParams" [("textDocument", document)])
  | "textDocument/formatting" => request (.joined "DocumentFormattingParams"
      [("textDocument", document), ("options", formattingOptions)] [workToken])
  | "textDocument/rangeFormatting" => request (.joined "DocumentRangeFormattingParams"
      [("textDocument", document), ("range", range), ("options", formattingOptions)] [workToken])
  | "textDocument/onTypeFormatting" => request (.joined "DocumentOnTypeFormattingParams"
      [("ch", .text), ("options", formattingOptions)] [place])
  | _ => none

/-- The method of this name that asks about a place in a document. -/
def ofPlaceName? : String → Option Method
  | "textDocument/declaration" | "textDocument/definition" | "textDocument/typeDefinition"
  | "textDocument/implementation" => request (aboutPlace "GotoDefinitionParams" [])
  | "textDocument/references" => request (aboutPlace "ReferenceParams"
      [("context", .record "ReferenceContext" [("includeDeclaration", .bool)])])
  | "textDocument/documentHighlight" => request (aboutPlace "DocumentHighlightParams" [])
  | "textDocument/moniker" => request (aboutPlace "MonikerParams" [])
  | "textDocument/completion" => request (aboutPlace "CompletionParams" [("context", .optional completionContext)])
  | "textDocument/hover" => request (atPlace "HoverParams" [])
  | "textDocument/signatureHelp" => request (atPlace "SignatureHelpParams"
      [("context", .optional signatureHelpContext)])
  | "textDocument/rename" => request (atPlace "RenameParams" [("newName", .text)])
  | "textDocument/prepareRename" => request place
  | "textDocument/linkedEditingRange" => request (atPlace "LinkedEditingRangeParams" [])
  | "textDocument/prepareCallHierarchy" => request (atPlace "CallHierarchyPrepareParams" [])
  | "textDocument/prepareTypeHierarchy" => request (atPlace "TypeHierarchyPrepareParams" [])
  | _ => none

/-- The method of this name that asks about a whole document or a range of it. -/
def ofWholeName? : String → Option Method
  | "textDocument/documentSymbol" => request (aboutDocument "DocumentSymbolParams" [])
  | "textDocument/documentLink" => request (aboutDocument "DocumentLinkParams" [])
  | "textDocument/codeLens" => request (aboutDocument "CodeLensParams" [])
  | "textDocument/foldingRange" => request (aboutDocument "FoldingRangeParams" [])
  | "textDocument/selectionRange" => request (aboutDocument "SelectionRangeParams" [("positions", .list position)])
  | "textDocument/semanticTokens/full" => request (aboutDocument "SemanticTokensParams" [])
  | "textDocument/semanticTokens/full/delta" => request (aboutDocument "SemanticTokensDeltaParams"
      [("previousResultId", .text)])
  | "textDocument/semanticTokens/range" => request (aboutDocument "SemanticTokensRangeParams" [("range", range)])
  | "textDocument/diagnostic" => request (aboutDocument "DocumentDiagnosticParams"
      [("identifier", .optional .text), ("previousResultId", .optional .text)])
  | "textDocument/codeAction" => request (aboutDocument "CodeActionParams"
      [("range", range), ("context", .record "CodeActionContext" [("diagnostics", .list .any),
        ("only", .optional (.list .text)), ("triggerKind", .optional .signed)])])
  | "textDocument/documentColor" => request (aboutDocument "DocumentColorParams" [])
  | "textDocument/colorPresentation" => request (aboutDocument "ColorPresentationParams"
      [("color", .any), ("range", range)])
  | "textDocument/inlayHint" => request (.joined "InlayHintParams"
      [("textDocument", document), ("range", range)] [workToken])
  | "textDocument/inlineValue" => request (.joined "InlineValueParams"
      [("textDocument", document), ("range", range), ("context", .record "InlineValueContext"
        [("frameId", .signed), ("stoppedLocation", range)])] [workToken])
  | _ => none

/-- The method of this name that asks for more about an item of an earlier answer. -/
def ofItemName? : String → Option Method
  | "callHierarchy/incomingCalls" => request (aboutItem "CallHierarchyIncomingCallsParams" "CallHierarchyItem")
  | "callHierarchy/outgoingCalls" => request (aboutItem "CallHierarchyOutgoingCallsParams" "CallHierarchyItem")
  | "typeHierarchy/supertypes" => request (aboutItem "TypeHierarchySupertypesParams" "TypeHierarchyItem")
  | "typeHierarchy/subtypes" => request (aboutItem "TypeHierarchySubtypesParams" "TypeHierarchyItem")
  | "documentLink/resolve" => request (.record "DocumentLink" [("range", range), ("target", .optional .url),
      ("tooltip", .optional .text), ("data", .optional .any)])
  | "codeLens/resolve" => request (.record "CodeLens" [("range", range), ("command", .optional command),
      ("data", .optional .any)])
  | "completionItem/resolve" => request (.joined "CompletionItem" [("label", .text)] [])
  | "codeAction/resolve" => request (.joined "CodeAction" [("title", .text)] [])
  | "inlayHint/resolve" => request (.joined "InlayHint" [("position", position), ("label", .any)] [])
  | "workspaceSymbol/resolve" => request (.joined "WorkspaceSymbol"
      [("name", .text), ("kind", .signed), ("location", .any)] [])
  | _ => none

/-- The method of this name that is about the workspace. -/
def ofWorkspaceName? : String → Option Method
  | "workspace/symbol" => request (.joined "WorkspaceSymbolParams" [("query", .text)]
      [partialResultToken, workToken])
  | "workspace/diagnostic" => request (.joined "WorkspaceDiagnosticParams" [("identifier", .optional .text),
      ("previousResultIds", .list (.record "PreviousResultId" [("uri", .url), ("value", .text)]))]
      [workToken, partialResultToken])
  | "workspace/executeCommand" => request (.joined "ExecuteCommandParams"
      [("command", .text), ("arguments", .omissible (.list .any))] [workToken])
  | "workspace/didChangeConfiguration" => notification (.record "DidChangeConfigurationParams" [("settings", .any)])
  | "workspace/didChangeWorkspaceFolders" => notification (.record "DidChangeWorkspaceFoldersParams"
      [("event", foldersEvent)])
  | "workspace/didChangeWatchedFiles" => notification (.record "DidChangeWatchedFilesParams"
      [("changes", .list (.record "FileEvent" [("uri", .url), ("type", .signed)]))])
  | "workspace/willCreateFiles" => request (aboutFiles "CreateFilesParams" "FileCreate" ["uri"])
  | "workspace/didCreateFiles" => notification (aboutFiles "CreateFilesParams" "FileCreate" ["uri"])
  | "workspace/willRenameFiles" => request (aboutFiles "RenameFilesParams" "FileRename" ["oldUri", "newUri"])
  | "workspace/didRenameFiles" => notification (aboutFiles "RenameFilesParams" "FileRename" ["oldUri", "newUri"])
  | "workspace/willDeleteFiles" => request (aboutFiles "DeleteFilesParams" "FileDelete" ["uri"])
  | "workspace/didDeleteFiles" => notification (aboutFiles "DeleteFilesParams" "FileDelete" ["uri"])
  | _ => none

/-- The method of this name, if the protocol has one. -/
def ofName? (name : String) : Option Method :=
  [ofLifeName?, ofDocumentName?, ofPlaceName?, ofWholeName?, ofItemName?, ofWorkspaceName?].findSome? (· name)

end Method

/-- Why parameters are not those of a method. -/
inductive ParamFault where
  | absent
  | unexpected (params : Json)
  | form (fault : FormFault)
  deriving Repr

/-- The text of a fault. -/
def ParamFault.message : ParamFault → String
  | absent => "Missing params field"
  | unexpected params => "Unexpected params: " ++ params.sorted.render
  | form fault => fault.message

namespace Method

/-- The parameters of a message with this method, in the form that they have to be of. -/
def readParams (m : Method) (params : Option Json) : Except ParamFault Json :=
  match m.form, params with
  | none, none => .ok .null
  | none, some v => .error (.unexpected v)
  | some _, none => .error .absent
  | some form, some v => (form.read v).mapError .form

end Method

end ShaderAnalysis
