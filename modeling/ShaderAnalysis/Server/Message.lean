import ShaderAnalysis.Document.Edit
import ShaderAnalysis.Json.Basic
import ShaderAnalysis.Number.Bounds

/-!
# Messages of the client

What a client asks for and what it reports, and how it is read from the parameters of a message. The
parameters have been brought into the form that goes with the method; a message with another method is
none that this server acts on.
-/

namespace ShaderAnalysis

/-- A folder of the workspace. -/
structure Folder where
  uri : Uri
  name : String
  deriving DecidableEq, Repr

/-- A message that is answered. -/
inductive Request where
  | start (folders : Option (List Folder)) (root : Option Uri) (options : Option Json)
  | shutdown
  | completion (uri : Uri) (position : Position)
  | hover (uri : Uri) (position : Position)
  | definition (uri : Uri) (position : Position)
  | signatureHelp (uri : Uri) (position : Position)
  | documentSymbols (uri : Uri)
  | documentLinks (uri : Uri)
  | semanticTokens (uri : Uri)
  | formatting (uri : Uri) (tabSize : Nat)
  | workspaceSymbols (query : String)
  | command (name : String) (arguments : List Json)

/-- A message that is not answered. -/
inductive Notification where
  | initialized
  | exit
  | opened (uri : Uri) (text : String) (version : Int) (languageId : String)
  | changed (uri : Uri) (changes : List Change) (version : Int)
  | closed (uri : Uri)
  | filesChanged (uris : List Uri)
  | settingsChanged (settings : Json)
  | foldersChanged (added removed : List Folder)

namespace Params

/-- A member that has to be there. -/
def member {α : Type} (decode : Json → Option α) (key : String) (v : Json) : Option α := do
  decode (← v.get? key)

/-- A member that may be missing or null. -/
def optional {α : Type} (decode : Json → Option α) (key : String) (v : Json) : Option (Option α) :=
  match v.get? key with
  | none | some .null => some none
  | some w => (decode w).map some

/-- All items of an array. -/
def list {α : Type} (decode : Json → Option α) (v : Json) : Option (List α) := do
  (← v.array?).mapM decode

/-- A number of 32 bits. -/
def number (v : Json) : Option Nat :=
  v.nat?.filter (fitsBits 32)

/-- A whole number of 32 bits. -/
def integer : Json → Option Int
  | .int n => if fitsSigned 32 n then some n else none
  | _ => none

def uri (v : Json) : Option Uri :=
  v.text?.bind Uri.parse?

/-- Any value. -/
def value (v : Json) : Option Json :=
  some v

def folder (v : Json) : Option Folder := do
  return ⟨← member uri "uri" v, ← member Json.text? "name" v⟩

def position (v : Json) : Option Position := do
  return ⟨← member number "line" v, ← member number "character" v⟩

def range (v : Json) : Option PositionRange := do
  return ⟨← member position "start" v, ← member position "end" v⟩

def change (v : Json) : Option Change := do
  return ⟨← optional range "range" v, ← member Json.text? "text" v⟩

/-- The URL of the document that a message is about. -/
def document (v : Json) : Option Uri :=
  member (member uri "uri") "textDocument" v

/-- A document and a place in it. -/
def place (v : Json) : Option (Uri × Position) := do
  return (← document v, ← member position "position" v)

end Params

open Params

/-- The request with this method and these parameters. -/
def Request.ofParams? (method : String) (v : Json) : Option Request :=
  let atPlace := fun (make : Uri → Position → Request) => (place v).map fun (uri, position) => make uri position
  match method with
  | "initialize" => do
    discard (member Json.object? "capabilities" v)
    return .start (← optional (list folder) "workspaceFolders" v) (← optional uri "rootUri" v)
      (← optional value "initializationOptions" v)
  | "shutdown" => some .shutdown
  | "textDocument/completion" => atPlace .completion
  | "textDocument/hover" => atPlace .hover
  | "textDocument/definition" => atPlace .definition
  | "textDocument/signatureHelp" => atPlace .signatureHelp
  | "textDocument/documentSymbol" => .documentSymbols <$> document v
  | "textDocument/documentLink" => .documentLinks <$> document v
  | "textDocument/semanticTokens/full" => .semanticTokens <$> document v
  | "textDocument/formatting" => do
    return .formatting (← document v) (← member (member number "tabSize") "options" v)
  | "workspace/symbol" => .workspaceSymbols <$> member Json.text? "query" v
  | "workspace/executeCommand" => do
    return .command (← member Json.text? "command" v) ((← optional Json.array? "arguments" v).getD [])
  | _ => none

/-- The notification with this method and these parameters. -/
def Notification.ofParams? (method : String) (v : Json) : Option Notification :=
  match method with
  | "initialized" => some .initialized
  | "exit" => some .exit
  | "textDocument/didOpen" => do
    let d ← v.get? "textDocument"
    return .opened (← member uri "uri" d) (← member Json.text? "text" d) (← member integer "version" d)
      (← member Json.text? "languageId" d)
  | "textDocument/didChange" => do
    return .changed (← document v) (← member (list change) "contentChanges" v)
      (← member (member integer "version") "textDocument" v)
  | "textDocument/didClose" => .closed <$> document v
  | "workspace/didChangeWatchedFiles" => .filesChanged <$> member (list (member uri "uri")) "changes" v
  | "workspace/didChangeConfiguration" => .settingsChanged <$> v.get? "settings"
  | "workspace/didChangeWorkspaceFolders" => do
    let event ← v.get? "event"
    return .foldersChanged (← member (list folder) "added" event) (← member (list folder) "removed" event)
  | _ => none

end ShaderAnalysis
