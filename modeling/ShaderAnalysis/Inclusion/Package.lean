import ShaderAnalysis.Files.Disk
import ShaderAnalysis.Inclusion.Version
import ShaderAnalysis.Json.Reader
import ShaderAnalysis.Workspace.Table

/-!
# Packages of a project

A project keeps the packages that it downloads in directories named by package and version, and its
own packages in directories with a manifest that states the name. Of several versions the newest one
counts, and the packages of the project itself come before downloaded ones.
-/

namespace ShaderAnalysis

/-- The directory of each package. -/
abbrev Packages := Table String Path

namespace Packages

/-- The package and version that a directory is named by. -/
def ofDirectoryName? (name : String) : Option (String × String) := do
  let (package, version) ← Text.splitOnce '@' name.toList
  guard !package.isEmpty
  return (String.ofList package, String.ofList version)

/-- The newest version of each package so far, with one more directory taken into account; of equal
versions the later one counts. -/
def addVersion (newest : Table String (String × Path)) (directory : Path) : Table String (String × Path) :=
  match directory.fileName?.bind ofDirectoryName? with
  | none => newest
  | some (package, version) =>
    match newest.find? package with
    | some (current, _) =>
      if Version.compare version current == .lt then newest else newest.insert package (version, directory)
    | none => newest.insert package (version, directory)

/-- The packages that a project has downloaded, given the directories that hold them. -/
def downloaded (directories : List Path) : Packages :=
  ⟨(directories.foldl addVersion .empty).entries.map fun (name, _, directory) => (name, directory)⟩

/-- The value of the name in a manifest, which is an object, or an array of just the name. -/
def manifestName? (manifest : Json) : Option Json :=
  match manifest with
  | .object members =>
    match members.filter (·.1 == "name") with
    | [(_, name)] => some name
    | _ => none
  | .array [name] => some name
  | _ => none

/-- The name that the text of a manifest states. -/
def nameInManifest? (text : String) : Option String := do
  let name ← (← manifestName? (← Json.parseOutermost? text)).text?
  let name := Text.trimmed name
  guard !name.isEmpty
  return name

/-- The file that states the name of a package. -/
def manifestFile : String := "package.json"

/-- The packages with one more of the project itself. -/
def addOwn (disk : Disk) (packages : Packages) (directory : Path) : Packages :=
  match (disk.readText? (directory.join manifestFile)).bind nameInManifest? with
  | some name => packages.insert name directory
  | none => packages

/-- The packages of the project in a directory. -/
def ofProject (disk : Disk) (project : Path) : Packages :=
  let cached := disk.subdirectories ((project.join "Library").join "PackageCache")
  let own := disk.subdirectories (project.join "Packages")
  own.foldl (addOwn disk) (downloaded cached)

end Packages

/-- The packages of the project that was asked for last. -/
structure PackageRegistry where
  scanned : Option (Path × Packages)
  deriving Repr, Inhabited

namespace PackageRegistry

/-- Nothing is known yet. -/
def empty : PackageRegistry :=
  ⟨none⟩

/-- The packages of a project; the disk is only asked if it is another project than before. -/
def packages (disk : Disk) (project : Path) : StateM PackageRegistry Packages := do
  match (← get).scanned.filter (·.1.same project) with
  | some (_, packages) => return packages
  | none =>
    let packages := Packages.ofProject disk project
    set (PackageRegistry.mk (some (project, packages)))
    return packages

/-- The directory of a package of a project. -/
def directory? (disk : Disk) (project : Path) (name : String) : StateM PackageRegistry (Option Path) := do
  return (← packages disk project).find? name

end PackageRegistry

end ShaderAnalysis
