import ShaderAnalysis.Json.Reader
import ShaderAnalysis.Json.Writer
import ShaderAnalysis.Server.Handler

/-!
# The language server as a program

Reads messages from standard input, hands them to the server and writes what it says to standard
output. The program opens no files itself: it knows the documents that the client has opened.
-/

namespace ShaderAnalysis.Program

/-- What is asked for on the command line. -/
structure Options where
  isVerbose : Bool := false
  wantsVersion : Bool := false
  wantsHelp : Bool := false

/-- The options in a row of arguments; none if there is an unknown one. -/
def Options.ofArguments? (o : Options) : List String → Option Options
  | [] => some o
  | "--log-file" :: _ :: rest => o.ofArguments? rest
  | argument :: rest =>
    match argument with
    | "-v" | "--verbose" => { o with isVerbose := true }.ofArguments? rest
    | "-V" | "--version" => { o with wantsVersion := true }.ofArguments? rest
    | "-h" | "--help" => { o with wantsHelp := true }.ofArguments? rest
    | "--log-messages" => o.ofArguments? rest
    | _ => none

/-- How the program is used. -/
def usage : String :=
  "Usage: shaderlab-analyzer [--verbose] [--log-messages] [--log-file <LOG_FILE>]"

/-! ## Framing -/

/-- The number of bytes that a header line announces. -/
def contentLength? (line : String) : Option Nat :=
  match Text.splitOnce ':' line.toList with
  | some (name, value) =>
    if Text.sameIgnoringAsciiCase (String.ofList name) "content-length" then
      (Text.trimmed (String.ofList value)).toNat?
    else
      none
  | none => none

/-- A message as it is sent. -/
def framed (message : Json) : String :=
  let body := message.render
  "Content-Length: " ++ toString body.utf8ByteSize ++ "\r\n\r\n" ++ body

/-- A message to the client; requests are numbered. -/
def ofOutgoing (number : Nat) (m : Outgoing) : Json :=
  .object ([("jsonrpc", .text "2.0"), ("method", .text m.method), ("params", m.params)] ++
    if m.isRequest then [("id", .nat number)] else [])

/-- The reply to the request with this identifier. -/
def reply (id : Json) (result : Except Fault (Except Refusal Json)) : Json :=
  let outcome := match result with
    | .ok (.ok value) => ("result", value)
    | .ok (.error refusal) =>
      ("error", .object [("code", .int refusal.code), ("message", .text refusal.message)])
    | .error _ => ("error", .object [("code", .int (-32603)), ("message", .text "Internal error")])
  .object [("jsonrpc", .text "2.0"), ("id", id), outcome]

/-- What the server says to a message, and the server after it. -/
def converse (s : Server) (message : Json) : List Json × Server :=
  match (message.get? "method").bind Json.text? with
  | none => ([], s)
  | some method =>
    let params := message.get? "params"
    match message.get? "id" with
    | some id =>
      let (result, s) := (Server.request method params).run s
      let (sent, s) := s.deliver
      (sent.zipIdx.map (fun (m, n) => ofOutgoing n m) ++ [reply id result], s)
    | none =>
      let (_, s) := (Server.notify method params).run s
      let (sent, s) := s.deliver
      (sent.zipIdx.map fun (m, n) => ofOutgoing n m, s)

/-! ## Reading and writing -/

/-- As many bytes of the input. -/
partial def readBytes (input : IO.FS.Stream) (count : Nat) (read : ByteArray) : IO ByteArray := do
  if count ≤ read.size then return read
  let more ← input.read (count - read.size).toUSize
  if more.isEmpty then return read
  readBytes input count (read ++ more)

/-- The next message of the input, as text; none at the end. -/
partial def readMessage (input : IO.FS.Stream) (length : Nat) : IO (Option String) := do
  let line ← input.getLine
  if line.isEmpty then return none
  if (Text.trimmed line).isEmpty then
    return some ((String.fromUTF8? (← readBytes input length ByteArray.empty)).getD "")
  readMessage input ((contentLength? line).getD length)

/-- Talks to the client until the input ends. -/
partial def serve (o : Options) (input output : IO.FS.Stream) (s : Server) : IO Unit := do
  match ← readMessage input 0 with
  | none => return
  | some text =>
    let message := (Json.parse? text).getD .null
    if o.isVerbose then IO.eprintln ((message.get? "method").bind Json.text? |>.getD "")
    let (said, s) := converse s message
    for m in said do
      output.putStr (framed m)
    output.flush
    serve o input output s

end ShaderAnalysis.Program

open ShaderAnalysis Program in
/-- Runs the server. -/
def main (arguments : List String) : IO UInt32 := do
  match Options.ofArguments? {} arguments with
  | none =>
    IO.eprintln usage
    return 2
  | some o =>
    if o.wantsHelp then IO.println usage
    else if o.wantsVersion then IO.println (Server.name ++ " " ++ Server.version)
    else serve o (← IO.getStdin) (← IO.getStdout) (.start .empty)
    return 0
