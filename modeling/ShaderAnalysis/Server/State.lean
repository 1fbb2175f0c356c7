import ShaderAnalysis.Code.CallSite
import ShaderAnalysis.Server.Message
import ShaderAnalysis.Settings.Payload
import ShaderAnalysis.Workspace.Discovery
import ShaderAnalysis.Workspace.Session

/-!
# The server

The server keeps a session, the settings and the folders of the workspace. While it works on a message
it may send messages of its own to the client.
-/

namespace ShaderAnalysis

/-- How far the life of a server has come. -/
inductive Phase where
  | uninitialized
  | running
  | shutDown
  deriving DecidableEq, Repr, Inhabited

/-- A message to the client. Some of them are answered. -/
structure Outgoing where
  method : String
  params : Json
  isRequest : Bool

/-- A server. -/
structure Server where
  session : Session
  settings : Settings
  folders : List Folder
  phase : Phase
  searches : Nat
  outbox : List Outgoing

/-- Why work on a message cannot be finished. -/
inductive Fault where
  | edit (fault : EditFault)
  | call (fault : CallFault)
  deriving DecidableEq, Repr

/-- Work on a message. -/
abbrev Work := ExceptT Fault (StateM Server)

namespace Server

/-- A server that has not been initialized, on a disk. -/
def start (disk : Disk) : Server where
  session := .start disk default
  settings := .default
  folders := []
  phase := .uninitialized
  searches := 0
  outbox := []

/-- The directories of the folders. -/
def roots (s : Server) : List Path :=
  s.folders.filterMap (·.uri.toPath?)

/-- The server with other settings; includes are looked up accordingly. -/
def withSettings (s : Server) (settings : Settings) : Server :=
  { s with settings, session := (s.session.configure (settings.includeConfig s.roots)).1 }

/-- The server with what a payload sets; nothing is done if that changes nothing. -/
def mergeSettings (s : Server) (payload : Json) : Server :=
  let settings := s.settings.merge payload
  if settings = s.settings then s else s.withSettings settings

/-- The server with other folders; includes are looked up accordingly. -/
def withFolders (s : Server) (folders : List Folder) : Server :=
  { s with folders }.withSettings s.settings

/-- The server with another session. -/
def withSession (s : Server) (session : Session) : Server :=
  { s with session }

/-- Drops the analysis of the document at a URL. -/
def forget (s : Server) (uri : Uri) : Server :=
  s.withSession (s.session.forget (.ofUri s.session.view.disk uri))

/-- The scan of the workspace that the settings allow. -/
def scanRequest (s : Server) : ScanRequest :=
  ⟨s.roots, s.settings.indexing.maxFiles, s.settings.indexing.excludes, .never⟩

/-- The scan that looks for definitions, if the settings want one. -/
def fallback? (s : Server) : Option ScanRequest :=
  if s.settings.indexing.fallback then some s.scanRequest else none

end Server

namespace Work

/-- Sends a message to the client. -/
def send (method : String) (params : Json) (isRequest : Bool) : Work Unit :=
  modify fun s => { s with outbox := s.outbox ++ [⟨method, params, isRequest⟩] }

/-- Answers a query about the session. -/
def ask {α : Type} (query : View → Query α) : Work α := do
  let s ← get
  let (answer, session) := s.session.run query
  set { s with session }
  return answer

end Work

end ShaderAnalysis
