import ShaderAnalysis.Files.Path

/-!
# The disk

The file system as a value: a tree of directories and files. Looking a path up goes through its
pieces one by one, as the operating system does, so a piece after a file leads nowhere even if it is
a dot. There are no links.
-/

namespace ShaderAnalysis

/-- A file or a directory; the entries of a directory are ordered by name. -/
inductive DiskNode where
  | file (content : ByteArray)
  | directory (entries : List (String × DiskNode))
  deriving Inhabited

namespace DiskNode

def isFile : DiskNode → Bool
  | file _ => true
  | directory _ => false

def isDirectory : DiskNode → Bool
  | file _ => false
  | directory _ => true

/-- What a directory contains. -/
def entries : DiskNode → List (String × DiskNode)
  | file _ => []
  | directory entries => entries

/-- The entry of this name. -/
def child? (n : DiskNode) (name : String) : Option DiskNode :=
  (n.entries.find? (·.1 == name)).map (·.2)

/-- The node below these names. -/
def at? (n : DiskNode) : List String → Option DiskNode
  | [] => some n
  | name :: rest => (n.child? name).bind (·.at? rest)

/-- The entries with one more, or with another node of that name. -/
def insertEntry (name : String) (node : DiskNode) : List (String × DiskNode) → List (String × DiskNode)
  | [] => [(name, node)]
  | (other, old) :: rest =>
    if name < other then (name, node) :: (other, old) :: rest
    else if name == other then (name, node) :: rest
    else (other, old) :: insertEntry name node rest

/-- The tree with a node below these names; missing directories are made. Nothing can be put below
a file. -/
def insert (node : DiskNode) : List String → DiskNode → DiskNode
  | [], _ => node
  | name :: rest, n =>
    match n with
    | file content => file content
    | directory entries =>
      let below := (n.child? name).getD (directory [])
      directory (insertEntry name (insert node rest below) entries)

/-- The tree without the file below these names, if there is one. -/
def removeFile? (n : DiskNode) : List String → Option DiskNode
  | [] => none
  | name :: rest =>
    match n.child? name with
    | none => none
    | some below =>
      if rest.isEmpty then
        if below.isFile then some (directory (n.entries.filter (·.1 != name))) else none
      else
        (below.removeFile? rest).map fun below => directory (insertEntry name below n.entries)

/-! ## Walks -/

mutual

/-- The place of this node and all admitted places below it, a directory before what it contains; and
whether they are files. -/
def walk (admits : String → Path → DiskNode → Bool) (place : Path) : DiskNode → List (Path × Bool)
  | .file _ => [(place, true)]
  | .directory entries => (place, false) :: walkEntries admits place entries

/-- The admitted places below a directory with these entries. -/
def walkEntries (admits : String → Path → DiskNode → Bool) (directory : Path) :
    List (String × DiskNode) → List (Path × Bool)
  | [] => []
  | (name, node) :: rest =>
    let place := directory.join name
    (if admits name place node then walk admits place node else []) ++ walkEntries admits directory rest

end

end DiskNode

/-- A file system. -/
structure Disk where
  root : DiskNode
  deriving Inhabited

namespace Disk

/-- A file system without files. -/
def empty : Disk :=
  ⟨.directory []⟩

/-- The names that lead to a place, given where one stands (innermost name first) and the pieces to
follow. -/
def follow (d : Disk) (here : List String) : List (List Char) → Option (List String)
  | [] => some here
  | piece :: rest =>
    if (d.root.at? here.reverse).any DiskNode.isDirectory then
      if piece = [] ∨ piece = ['.'] then d.follow here rest
      else if piece = ['.', '.'] then d.follow here.tail rest
      else
        let there := String.ofList piece :: here
        if (d.root.at? there.reverse).isSome then d.follow there rest else none
    else
      none

/-- The names that lead to what a path names; only absolute paths name anything. -/
def names? (d : Disk) (p : Path) : Option (List String) :=
  if p.isAbsolute then
    (d.follow [] ((Text.splitWhere (· == '/') p.text.toList).drop 1)).map List.reverse
  else
    none

/-- The path of these names from the root. -/
def pathOf (names : List String) : Path :=
  ⟨"/" ++ "/".intercalate names⟩

/-- The one path of what a path names. -/
def canonical? (d : Disk) (p : Path) : Option Path :=
  (d.names? p).map pathOf

/-- What a path names. -/
def node? (d : Disk) (p : Path) : Option DiskNode :=
  (d.names? p).bind d.root.at?

/-- Whether a path names a file. -/
def isFile (d : Disk) (p : Path) : Bool :=
  (d.node? p).any DiskNode.isFile

/-- Whether a path names a directory. -/
def isDirectory (d : Disk) (p : Path) : Bool :=
  (d.node? p).any DiskNode.isDirectory

/-- The text of a file, if it is text. -/
def readText? (d : Disk) (p : Path) : Option String :=
  match d.node? p with
  | some (.file content) => String.fromUTF8? content
  | _ => none

/-- The names in a path, from the root on and without dots. -/
def namesIn (p : Path) : List String :=
  (Path.normalizeComponents p.components).filterMap fun c =>
    match c with
    | .normal name => some name
    | _ => none

/-- The disk with a file. -/
def write (d : Disk) (p : Path) (content : ByteArray) : Disk :=
  ⟨DiskNode.insert (.file content) (namesIn p) d.root⟩

/-- The disk with a directory, which keeps what it contains. -/
def makeDirectory (d : Disk) (p : Path) : Disk :=
  match d.root.at? (namesIn p) with
  | some _ => d
  | none => ⟨DiskNode.insert (.directory []) (namesIn p) d.root⟩

/-- The disk without a file, if the path names one. -/
def delete? (d : Disk) (p : Path) : Option Disk :=
  (d.names? p).bind fun names => (d.root.removeFile? names).map Disk.mk

/-- The directories in a directory, by name. -/
def subdirectories (d : Disk) (p : Path) : List Path :=
  ((((d.node? p).map DiskNode.entries).getD []).filter (·.2.isDirectory)).map fun (name, _) => p.join name

/-- The files on the disk. -/
def files (d : Disk) : List Path :=
  ((d.root.walk (fun _ _ _ => true) ⟨"/"⟩).filter (·.2)).map (·.1)

end Disk

end ShaderAnalysis
