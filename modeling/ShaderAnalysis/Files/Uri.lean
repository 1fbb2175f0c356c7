import ShaderAnalysis.Files.Path
import ShaderAnalysis.Host.Basic

/-!
# Locations of documents

Clients name documents by URLs. A URL is read into its parts in normal form: the scheme in lower
case, the host in its usual spelling, dot segments resolved, and what may not stand for itself
percent-encoded, so that two spellings of one URL are equal values. A file URL stands for an absolute
path, and back.
-/

namespace ShaderAnalysis

/-- What stands between two slashes and the path of a URL. -/
structure Authority where
  credentials : String
  host : Option Host
  port : Option Nat
  deriving DecidableEq, Repr, Inhabited

namespace Authority

/-- No host is named. -/
def empty : Authority :=
  ⟨"", none, none⟩

/-- An authority as text. -/
def text (a : Authority) : String :=
  (if a.credentials.isEmpty then "" else a.credentials ++ "@") ++
    a.host.elim "" Host.text ++ a.port.elim "" fun n => ":" ++ toString n

end Authority

/-- A URL in normal form. The path of a URL is either a row of segments, written with a slash each,
or a text without meaning of its own. -/
structure Uri where
  scheme : String
  authority : Option Authority
  path : String
  query : Option String
  fragment : Option String
  deriving DecidableEq, Repr, Inhabited

namespace Uri

/-- What stands before the path; a path that could be taken for an authority has a dot in front. -/
def beforePath (u : Uri) : String :=
  match u.authority with
  | some a => "//" ++ a.text
  | none => if "//".isPrefixOf u.path then "/." else ""

/-- The URL as text. -/
def text (u : Uri) : String :=
  u.scheme ++ ":" ++ u.beforePath ++ u.path ++
    (match u.query with | some q => "?" ++ q | none => "") ++
    (match u.fragment with | some f => "#" ++ f | none => "")

/-! ## Schemes -/

/-- The schemes whose URLs have a host and a path, and the port that goes without saying. -/
def specialPort? (scheme : String) : Option (Option Nat) :=
  match scheme with
  | "http" | "ws" => some (some 80)
  | "https" | "wss" => some (some 443)
  | "ftp" => some (some 21)
  | "file" => some none
  | _ => none

/-- Whether the scheme is one of them. -/
def isSpecial (scheme : String) : Bool :=
  (specialPort? scheme).isSome

/-- Whether the character separates segments. -/
def isSlash (special : Bool) (c : Char) : Bool :=
  c == '/' || (special && c == '\\')

/-- Whether the character can be part of a scheme. -/
def isSchemeChar (c : Char) : Bool :=
  c.isAlphanum || c == '+' || c == '-' || c == '.'

/-- The scheme in lower case, and what follows its colon. -/
def readScheme? (cs : List Char) : Option (String × List Char) :=
  match cs.dropWhile isSchemeChar with
  | ':' :: rest =>
    if cs.head?.any Char.isAlpha then
      some (Text.asciiLower (String.ofList (cs.takeWhile isSchemeChar)), rest)
    else
      none
  | _ => none

/-! ## Paths -/

/-- A letter and a colon or bar: the name of a drive. -/
def isDrive : List Char → Bool
  | [letter, c] => letter.isAlpha && (c == ':' || c == '|')
  | _ => false

/-- Whether a segment is the name of a drive, up to a backslash if there is one. -/
def startsWithDrive (segment : List Char) : Bool :=
  isDrive (segment.take 2) && (segment.drop 2).head?.all (· == '\\')

/-- A segment that stands for itself, in whatever spelling. -/
def isSingleDot (segment : List Char) : Bool :=
  [".", "%2e"].contains (Text.asciiLower (String.ofList segment))

/-- A segment that stands for the one above, in whatever spelling. -/
def isDoubleDot (segment : List Char) : Bool :=
  ["..", ".%2e", "%2e.", "%2e%2e"].contains (Text.asciiLower (String.ofList segment))

/-- The segments of a path, last first, and whether the first one is a drive. -/
structure Segments where
  done : List (List Char)
  hasDrive : Bool

namespace Segments

/-- The segments without the last one; a drive is kept. -/
def drop (s : Segments) : Segments :=
  match s.done with
  | segment :: rest => if startsWithDrive segment then s else { s with done := rest }
  | [] => s

/-- One more segment. The first segment of a file can be a drive, which is written with a colon. -/
def push (isFile : Bool) (s : Segments) (segment : List Char) : Segments :=
  if isFile && s.done.isEmpty && isDrive segment then ⟨[segment.take 1 ++ [':']], true⟩
  else { s with done := segment :: s.done }

/-- The segments with more of them, which may be dots; behind the last one there is no slash. -/
def resolve (isFile : Bool) (s : Segments) : List (List Char) → Segments
  | [] => s
  | [last] =>
    if isDoubleDot last then s.drop.push isFile []
    else if isSingleDot last then s.push isFile []
    else s.push isFile last
  | segment :: rest =>
    if isDoubleDot segment then resolve isFile s.drop rest
    else if isSingleDot segment then resolve isFile s rest
    else resolve isFile (s.push isFile segment) rest

end Segments

/-- The segments as a path. -/
def ofSegments (segments : List (List Char)) : List Char :=
  segments.flatMap ('/' :: ·)

/-- A path in normal form. -/
structure PathText where
  text : String
  hasDrive : Bool

/-- The path behind its first slash, in normal form. The path of a file has just one slash in front. -/
def readPath (scheme : String) (cs : List Char) : PathText :=
  let isFile := scheme == "file"
  let pieces := (Text.splitWhere (isSlash (isSpecial scheme)) cs).map (Percent.encode Percent.inPath)
  let segments := Segments.resolve isFile ⟨[], false⟩ pieces
  let path := ofSegments segments.done.reverse
  ⟨String.ofList (if isFile then '/' :: path.dropWhile (· == '/') else path), segments.hasDrive⟩

/-! ## Authorities -/

/-- What stands before the host, without the at sign. -/
def readCredentials (cs : List Char) : String :=
  let encode := fun cs => String.ofList (Percent.encode Percent.inUserInfo cs)
  let password := (cs.dropWhile (· != ':')).drop 1
  encode (cs.takeWhile (· != ':')) ++ (if password.isEmpty then "" else ":" ++ encode password)

/-- Where the host ends: at the first colon that is not between brackets. -/
def hostLength (bracketed : Bool) : List Char → Nat
  | [] => 0
  | c :: cs =>
    if c == ':' && !bracketed then 0
    else 1 + hostLength (c == '[' || (bracketed && c != ']')) cs

/-- The port, unless it goes without saying. -/
def readPort (scheme : String) (digits : List Char) : Except UriFault (Option Nat) :=
  let n := Text.decimal digits
  if !digits.all Char.isDigit || 65536 ≤ n then .error .badPort
  else .ok (if digits.isEmpty || specialPort? scheme == some (some n) then none else some n)

/-- The authority at the start of the characters behind two slashes, and what follows it; `isWhole` says
that the URL ends with the characters. A port also ends at a backslash. -/
def readAuthority (scheme : String) (isWhole : Bool) (cs : List Char) :
    Except UriFault (Authority × List Char) := do
  let slash := isSlash (isSpecial scheme)
  let all := cs.takeWhile (!slash ·)
  let afterAt := (all.reverse.takeWhile (· != '@')).reverse
  let beforeAt := (all.take (all.length - afterAt.length)).dropLast
  let credentials := readCredentials beforeAt
  let hostText := afterAt.take (hostLength false afterAt)
  let portText := (afterAt.drop hostText.length).takeWhile (· != '\\')
  let rest := cs.drop (all.length - afterAt.length + hostText.length + portText.length)
  if hostText.isEmpty then
    let startsWithAt := all.head? == some '@' && beforeAt.isEmpty
    let isAtEnd := isWhole && rest.isEmpty
    if isSpecial scheme || !portText.isEmpty || !credentials.isEmpty || (startsWithAt && !isAtEnd) then
      throw .noHost
    return (.empty, rest)
  let host ← if isSpecial scheme then Host.read hostText else Host.readOpaque hostText
  return (⟨credentials, host, ← readPort scheme (portText.drop 1)⟩, rest)

/-- The host of a file behind two slashes, and the rest, from the slash of the path on. A drive is no
host, and this machine is not named. -/
def readFileHost (cs : List Char) : Except UriFault (Option Host × List Char) := do
  let name := cs.takeWhile (!isSlash true ·)
  if isDrive name then return (none, cs)
  let rest := cs.drop name.length
  if name.isEmpty then return (none, rest)
  let host ← Host.read name
  return (if host = Host.thisMachine then none else some host, rest)

/-! ## Whole URLs -/

/-- What stands before the query and the fragment of the URL of a file. Without a host, a slash in
front of the path is one of its own. -/
def readFile (cs : List Char) : Except UriFault (Authority × String) :=
  let slash := isSlash true
  let ofPath := fun (host : Option Host) (cs : List Char) =>
    let path := readPath "file" cs
    (⟨"", if path.hasDrive then none else host, none⟩, path.text)
  match cs with
  | a :: b :: rest =>
    if slash a && slash b then do
      let (host, rest) ← readFileHost rest
      return ofPath host (if host.isSome then rest.drop 1 else rest)
    else .ok (ofPath none (if slash a then b :: rest else cs))
  | _ => .ok (ofPath none (if cs.head?.any slash then cs.drop 1 else cs))

/-- What stands before the query and the fragment, read as a URL of this scheme; `isWhole` says that there
are none. -/
def readHierarchy (scheme : String) (isWhole : Bool) (cs : List Char) :
    Except UriFault (Option Authority × String) :=
  if scheme == "file" then (readFile cs).map fun (a, path) => (some a, path)
  else if isSpecial scheme then do
    let (authority, rest) ← readAuthority scheme isWhole (cs.dropWhile (isSlash true))
    return (some authority, (readPath scheme (rest.drop 1)).text)
  else
    match cs with
    | '/' :: '/' :: rest => do
      let (authority, rest) ← readAuthority scheme isWhole rest
      let path :=
        match rest with
        | [] => ""
        | '/' :: path => (readPath scheme path).text
        | path => (readPath scheme path).text
      return (some authority, path)
    | '/' :: rest => .ok (none, (readPath scheme rest).text)
    | _ => .ok (none, String.ofList (Percent.encode Percent.isControl cs))

/-- A query or fragment, with the character that starts it. -/
def readPart (encoded : Char → Bool) (cs : List Char) : Option String :=
  match cs with
  | [] => none
  | _ :: inner => some (String.ofList (Percent.encode encoded inner))

/-- The characters of a URL: not the blanks and controls around it, and no tabs and line breaks. -/
def urlChars (s : String) : List Char :=
  let isOuter := fun c : Char => c.toNat ≤ 32
  (Text.trimEndWhile isOuter (s.toList.dropWhile isOuter)).filter fun c =>
    c != '\t' && c != '\n' && c != '\r'

/-- Reads a URL. -/
def parse (s : String) : Except UriFault Uri := do
  match readScheme? (urlChars s) with
  | none => throw .noScheme
  | some (scheme, rest) =>
    let beforeFragment := rest.takeWhile (· != '#')
    let beforeQuery := beforeFragment.takeWhile (· != '?')
    let (authority, path) ← readHierarchy scheme (beforeQuery.length == rest.length) beforeQuery
    let inQuery := fun c => Percent.inQuery c || (isSpecial scheme && c == '\'')
    return ⟨scheme, authority, path, readPart inQuery (beforeFragment.dropWhile (· != '?')),
      readPart Percent.inFragment (rest.dropWhile (· != '#'))⟩

/-- The URL that a text is, if it is one. -/
def parse? (s : String) : Option Uri :=
  (parse s).toOption

/-! ## Paths and files -/

/-- The segments of the path, if it is a row of segments. -/
def segments? (u : Uri) : Option (List String) :=
  match u.path.toList with
  | '/' :: rest => some ((Text.splitWhere (· == '/') rest).map String.ofList)
  | _ => none

/-- The last segment as a name for the document, or the whole URL if that is empty. -/
def fileName (u : Uri) : String :=
  match u.segments?.bind List.getLast? with
  | some name => if name.isEmpty then u.text else name
  | none => u.text

/-- The path that the URL stands for; the host has to be this machine. -/
def toPath? (u : Uri) : Option Path := do
  let segments ← u.segments?
  guard ((u.authority.bind (·.host)).all (· == Host.thisMachine))
  let decoded ← Percent.decode? (segments.flatMap fun s => '/' :: s.toList)
  let last := decoded.toList.reverse.take 2
  -- a drive is a directory
  return ⟨if decoded.length > 2 && isDrive last.reverse then decoded ++ "/" else decoded⟩

/-- The URL of an absolute path. -/
def ofPath? (p : Path) : Option Uri := do
  guard p.isAbsolute
  let names := p.components.tail.map fun c => Percent.encode Percent.inFileName c.text.toList
  let path := if names.isEmpty then ['/'] else ofSegments names
  return ⟨"file", some .empty, String.ofList path, none, none⟩

/-- The language of a document: the one that the client names, else that of the file. -/
def language? (u : Uri) (languageId : Option String) : Option Language :=
  (languageId.bind Language.ofId?).or (u.toPath?.bind Path.language?)

end Uri

end ShaderAnalysis
