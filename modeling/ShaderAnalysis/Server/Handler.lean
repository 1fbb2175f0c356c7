import ShaderAnalysis.Protocol.Answer
import ShaderAnalysis.Protocol.Method
import ShaderAnalysis.Server.Capabilities
import ShaderAnalysis.Server.State

/-!
# Handling messages

What the server does about each message of the client. Requests are refused before the server is
initialized and after it is shut down, and always if the protocol has no such method; notifications are
then passed over.
-/

namespace ShaderAnalysis

/-- Why a request is refused. -/
inductive Refusal where
  | notInitialized
  | invalidRequest
  | methodNotFound
  | invalidParams (fault : ParamFault)
  deriving Repr

namespace Refusal

/-- The number of a refusal. -/
def code : Refusal → Int
  | notInitialized => -32002
  | invalidRequest => -32600
  | methodNotFound => -32601
  | invalidParams _ => -32602

/-- The text of a refusal. -/
def message : Refusal → String
  | notInitialized => "Server not initialized"
  | invalidRequest => "Invalid request"
  | methodNotFound => "Method not found"
  | invalidParams fault => fault.message

end Refusal

/-- How important a message to the user is. -/
inductive Severity where
  | error
  | warning
  | info
  deriving DecidableEq, Repr

/-- The number of a severity. -/
def Severity.code : Severity → Nat
  | error => 1
  | warning => 2
  | info => 3

namespace Server

open Work

/-! ## Messages to the client -/

/-- A text with the name of the server in front. -/
def signed (text : String) : String :=
  name ++ ": " ++ text

/-- A message to the user. -/
def userMessage (severity : Severity) (text : String) : Json :=
  .object [("type", .nat severity.code), ("message", .text (signed text))]

/-- Shows a message to the user. -/
def show_ (severity : Severity) (text : String) : Work Unit :=
  send "window/showMessage" (userMessage severity text) false

/-- Logs what merely informs, if the settings want it. -/
def logInfo (text : String) : Work Unit := do
  if (← get).settings.logLevel.allowsInfo then
    send "window/logMessage" (userMessage .info text) false

/-- Asks the client to report changes of shader files. -/
def watchFiles : Work Unit :=
  send "client/registerCapability" (.object [("registrations", .array [.object [
    ("id", .text (name ++ "/watch-shader-files")), ("method", .text "workspace/didChangeWatchedFiles"),
    ("registerOptions", .object [("watchers", .array [.object [("globPattern", .text shaderFamilyGlob)]])])]])])
    true

/-- Asks the client to apply an edit to a document. -/
def applyEdit (uri : Uri) (edit : Json) : Work Unit :=
  send "workspace/applyEdit"
    (.object [("edit", .object [("changes", .object [(uri.text, .array [edit])])])]) true

/-- Does work under a title, and reports to the client that it begins and that it has ended. -/
def withProgress {α : Type} (title beginning : String) (work : Work α) (ending : α → String) : Work α := do
  modify fun s => { s with searches := s.searches + 1 }
  let token := .text ("shaderlabAnalyzer/" ++ title ++ "/" ++ toString (← get).searches)
  let report := fun members => send "$/progress" (.object [("token", token), ("value", .object members)]) false
  send "window/workDoneProgress/create" (.object [("token", token)]) true
  report [("kind", .text "begin"), ("title", .text (signed title)), ("cancellable", .bool false),
    ("message", .text beginning)]
  let result ← work
  report [("kind", .text "end"), ("message", .text (ending result))]
  return result

/-! ## Requests -/

/-- Takes up the folders and settings of a client that starts. -/
def startUp (folders : Option (List Folder)) (root : Option Uri) (options : Option Json) : Work Json := do
  let given := folders.or (root.map fun uri => [⟨uri, "root"⟩])
  modify fun s =>
    { { s with folders := given.getD s.folders }.withSettings (.ofPayload options) with phase := .running }
  return introduction

/-- Ends the work of the server. -/
def shutDown : Work Json := do
  modify fun s => { s with session := { s.session with memo.analyses := .empty } }
  return .null

/-- Formats a document. -/
def formatting (uri : Uri) (tabSize : Nat) : Work Json := do
  let s ← get
  match s.session.view.snapshot? uri with
  | none => return .null
  | some snapshot =>
    match snapshot.document.format s.session.view.disk s.settings.formatting tabSize with
    | .ok edit => return .array (edit.toList.map (·.toJson))
    | .error .disabled => return .array []
    | .error fault =>
      show_ .warning fault.message
      return .null

/-- The URL that the first argument of a command is, or has as a member. -/
def commandUri? (arguments : List Json) : Option Uri := do
  match ← arguments.head? with
  | .text s => Uri.parse? s
  | .object members => (← (← Json.member? members "uri").text?) |> Uri.parse?
  | _ => none

/-- The number of spaces of one level for the command that formats. -/
def commandTabSize : Nat := 4

/-- Formats a shader: the client is asked to apply the edit. -/
def formatShader (uri : Uri) : Work Json := do
  let s ← get
  match s.session.view.snapshot? uri with
  | none => return .null
  | some snapshot =>
    match snapshot.document.formatShader s.session.view.disk s.settings.formatting commandTabSize with
    | .ok none => return .null
    | .ok (some edit) =>
      applyEdit uri edit.toJson
      return .array [edit.toJson]
    | .error fault =>
      show_ .error fault.message
      return .null

/-- Executes a command. -/
def command (commandName : String) (arguments : List Json) : Work Json :=
  match commandUri? arguments with
  | some uri => if commandName = formatCommand then formatShader uri else return .null
  | none => return .null

/-- Searches the workspace for symbols. -/
def workspaceSymbols (query : String) : Work Json := do
  let request := (← get).scanRequest
  let found ← withProgress "Workspace symbols" ("Searching for '" ++ query ++ "'")
    (ask fun v => v.workspaceSymbols query request) fun found => toString found.length ++ " symbol(s)"
  return .array (found.map (·.toJson))

/-- The help at a position, unless it cannot be given. -/
def signatureHelp (uri : Uri) (position : Position) : Work Json := do
  match ← ask fun v => v.signatureHelp uri position with
  | .ok help => return .ofOption (help.map (·.toJson))
  | .error fault => throw (.call fault)

/-- The answer to a request. -/
def answer (r : Request) : Work Json := do
  let scan := (← get).fallback?
  match r with
  | .start folders root options => startUp folders root options
  | .shutdown => shutDown
  | .completion uri position => return .array ((← ask fun v => v.completion uri position).map (·.toJson))
  | .hover uri position => return .ofOption ((← ask fun v => v.hover uri position scan).map (·.toJson))
  | .definition uri position =>
    return .ofOption ((← ask fun v => v.definition uri position scan).map fun link => .array [link.toJson])
  | .signatureHelp uri position => signatureHelp uri position
  | .documentSymbols uri =>
    return .ofOption ((← ask fun v => v.documentSymbols uri).map fun all => .array (all.map (·.toJson)))
  | .documentLinks uri => return .array ((← ask fun v => v.links uri).map (·.toJson))
  | .semanticTokens uri => return EncodedToken.listToJson (← ask fun v => v.semanticTokens uri)
  | .formatting uri tabSize => formatting uri tabSize
  | .workspaceSymbols query => workspaceSymbols query
  | .command commandName arguments => command commandName arguments

/-! ## Notifications -/

/-- The last part of a path, as it is written in the URL. -/
def shortName (uri : Uri) : String :=
  String.ofList (uri.path.toList.reverse.takeWhile (· != '/')).reverse

/-- Takes up a document that the client has opened. -/
def documentOpened (uri : Uri) (text : String) (version : Int) (languageId : String) : Work Unit := do
  modify fun s => (s.withSession (s.session.openDocument uri text version languageId)).forget uri
  logInfo ("Opened " ++ shortName uri)

/-- Takes up the changes of an open document. -/
def documentChanged (uri : Uri) (changes : List Change) (version : Int) : Work Unit := do
  let s ← get
  match s.session.changeDocument? uri changes version with
  | none => return
  | some (session, none) => set ((s.withSession session).forget uri)
  | some (session, some fault) =>
    set (s.withSession session)
    throw (.edit fault)

/-- Takes up which folders the workspace has lost and gained. -/
def foldersChanged (added removed : List Folder) : Work Unit :=
  modify fun s =>
    s.withFolders (s.folders.filter (fun f => !removed.any (·.uri == f.uri)) ++ added)

/-- What is done about a notification. -/
def notice (n : Notification) : Work Unit :=
  match n with
  | .initialized => watchFiles
  | .exit => modify fun s => { s with phase := .shutDown }
  | .opened uri text version languageId => documentOpened uri text version languageId
  | .changed uri changes version => documentChanged uri changes version
  | .closed uri => modify fun s => s.withSession (s.session.closeDocument uri)
  | .filesChanged uris => modify fun s => uris.foldl forget s
  | .settingsChanged payload => modify fun s => s.mergeSettings payload
  | .foldersChanged added removed => foldersChanged added removed

/-! ## Dispatch -/

/-- Notifications that may come at any time. -/
def timeless : List String :=
  ["exit", "$/cancelRequest"]

/-- Why a request with this method is refused in this phase, if it is. -/
def refusal? (phase : Phase) (name : String) (method : Method) : Option Refusal :=
  match phase with
  | .uninitialized =>
    if name = "initialize" then none
    else some (if timeless.contains name then .invalidRequest else .notInitialized)
  | .running => if name = "initialize" || !method.isRequest then some .invalidRequest else none
  | .shutDown => some .invalidRequest

/-- Ends the life of the server if the method says so, whatever the parameters are. -/
def endLife (name : String) : Work Unit :=
  if name = "shutdown" then modify fun s => { s with phase := .shutDown } else return

/-- The answer to a request with this method and these parameters, or why it is refused. -/
def request (name : String) (params : Option Json) : Work (Except Refusal Json) := do
  match Method.ofName? name with
  | none => return .error .methodNotFound
  | some method =>
    match refusal? (← get).phase name method with
    | some refusal => return .error refusal
    | none =>
      endLife name
      match method.readParams params with
      | .error fault => return .error (.invalidParams fault)
      | .ok v =>
        match Request.ofParams? name v with
        | some r => return .ok (← answer r)
        | none => return .error .methodNotFound

/-- What is done about a notification with this method and these parameters. -/
def notify (name : String) (params : Option Json) : Work Unit := do
  match (← get).phase, Method.ofName? name with
  | .running, some method =>
    endLife name
    if !method.isRequest then
      match (method.readParams params).toOption.bind (Notification.ofParams? name) with
      | some n => notice n
      | none => return
  | _, _ => return

/-- The messages to the client, and the server without them. -/
def deliver (s : Server) : List Outgoing × Server :=
  (s.outbox, { s with outbox := [] })

end Server

end ShaderAnalysis
