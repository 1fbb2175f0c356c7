import ShaderAnalysis.Cancellation
import ShaderAnalysis.Files.Disk

/-!
# Discovering shader files

A scan of a workspace goes through the directories below its roots, a directory before what it
contains and the entries of a directory by name. Hidden directories and what is excluded are passed
over. Every place that the scan comes to asks once whether the scan is cancelled; a cancelled scan
keeps what it has found so far.
-/

namespace ShaderAnalysis

/-- What a scan of a workspace is to look at, and how it is cancelled. -/
structure ScanRequest where
  roots : List Path
  maxFiles : Nat
  excludes : List String
  oracle : Oracle

namespace Discovery

/-- Whether the entry of a directory is looked at. -/
def isAdmitted (excludes : List String) (name : String) (place : Path) (node : DiskNode) : Bool :=
  !(node.isDirectory && name.toList.head? == some '.') && !place.isExcluded excludes

/-- The places that a scan of one root comes to, and whether they are files. -/
def placesBelow (disk : Disk) (excludes : List String) (root : Path) : List (Path × Bool) :=
  match disk.node? root with
  | some node => if root.isExcluded excludes then [] else node.walk (isAdmitted excludes) root
  | none => []

/-- The places that a scan comes to. -/
def places (disk : Disk) (request : ScanRequest) : List (Path × Bool) :=
  request.roots.flatMap (placesBelow disk request.excludes)

/-- The files found, given those found so far; each place asks one question. -/
def collect (disk : Disk) (request : ScanRequest) (asked : Nat) (found : List Path) :
    List (Path × Bool) → List Path × Nat
  | [] => (found, asked)
  | (place, isFile) :: rest =>
    if request.oracle.cancels asked then (found, asked + 1)
    else if isFile && place.isShaderFamily then
      let file := (disk.canonical? place).getD place
      let found := if found.contains file then found else found ++ [file]
      if request.maxFiles ≤ found.length then (found, asked + 1)
      else collect disk request (asked + 1) found rest
    else collect disk request (asked + 1) found rest

/-- The shader files of a workspace, and the number of questions asked. -/
def files (disk : Disk) (request : ScanRequest) : List Path × Nat :=
  collect disk request 0 [] (places disk request)

end Discovery

end ShaderAnalysis
