import ShaderAnalysis.Inclusion.Config
import ShaderAnalysis.Inclusion.Directive
import ShaderAnalysis.Inclusion.Package

/-!
# Resolving includes

The file that an included path stands for is the first one that exists: next to the including file;
for a path into a package, in a directory that is mapped to the package or in the package of the
project; below a folder of the workspace; in the library. Paths are normalised without asking the
disk, so that a file has one name.
-/

namespace ShaderAnalysis

/-- Where an included file was found. -/
inductive IncludeOrigin where
  | relative
  | packageMapping
  | packageRegistry
  | workspaceRoot
  | libraryRoot
  deriving DecidableEq, Repr

/-- A file that may be the included one. -/
abbrev Candidate := Path × IncludeOrigin

namespace IncludeConfig

/-- Whether two configurations lead to the same places. -/
def same (c d : IncludeConfig) : Bool :=
  let samePaths := fun ps qs : List Path => ps.map Path.components == qs.map Path.components
  samePaths c.library.toList d.library.toList && samePaths c.project.toList d.project.toList &&
    c.mappings.map (·.1) == d.mappings.map (·.1) &&
    samePaths (c.mappings.map (·.2)) (d.mappings.map (·.2)) && samePaths c.roots d.roots

/-- The directory of the project: the one that is set, or the first folder of the workspace that looks
like one. -/
def projectRoot? (c : IncludeConfig) (disk : Disk) : Option Path :=
  c.project.or (c.roots.find? fun root => disk.isDirectory (root.join "Assets"))

/-- The characters behind `start`, if the text starts with it. -/
def dropStart? (start text : List Char) : Option (List Char) :=
  if start.isPrefixOf text then some (text.drop start.length) else none

/-- The characters of a path behind the root of all packages. -/
def inPackages? (literal : String) : Option (List Char) :=
  dropStart? Directive.packagesRoot.toList literal.toList

/-- What a mapping makes of the path `inner` below the root of all packages. -/
def mapped? (inner : List Char) (mapping : String × Path) : Option Candidate := do
  let rest ← dropStart? mapping.1.toList inner
  guard (rest.isEmpty || rest.head? == some '/')
  return ((mapping.2.join (String.ofList (rest.dropWhile (· == '/')))).normalize, .packageMapping)

/-- The candidates that come before the packages of the project. -/
def near (c : IncludeConfig) (directory : Path) (literal : String) : List Candidate :=
  ((directory.join literal).normalize, .relative) ::
    (inPackages? literal).toList.flatMap fun inner => c.mappings.filterMap (mapped? inner)

/-- The candidates that come after the packages of the project. -/
def far (c : IncludeConfig) (literal : String) : List Candidate :=
  c.roots.map (fun root => ((root.join literal).normalize, .workspaceRoot)) ++
    c.library.toList.map fun library => ((library.join literal).normalize, .libraryRoot)

/-- The package and the file in it that a path names. -/
def packageFile? (literal : String) : Option (String × String) := do
  let (package, file) ← Text.splitOnce '/' (← inPackages? literal)
  guard !package.isEmpty
  return (String.ofList package, String.ofList file)

/-- The candidate in a package of the project. -/
def inProject? (c : IncludeConfig) (disk : Disk) (literal : String) :
    StateM PackageRegistry (Option Candidate) := do
  match c.projectRoot? disk, packageFile? literal with
  | some project, some (package, file) =>
    return (← PackageRegistry.directory? disk project package).map fun directory =>
      ((directory.join file).normalize, .packageRegistry)
  | _, _ => return none

/-- Whether a candidate is a file. -/
def exists_ (disk : Disk) (candidate : Candidate) : Bool :=
  disk.isFile candidate.1

/-- The file that a path stands for in the file `source`, and where it was found. -/
def resolve (c : IncludeConfig) (disk : Disk) (source : Path) (literal : String) :
    StateM PackageRegistry (Option Candidate) := do
  let literal := Text.trimmed literal
  if literal.isEmpty then return none
  match (c.near (source.parent?.getD ⟨""⟩) literal).find? (exists_ disk) with
  | some found => return some found
  | none =>
    match (← c.inProject? disk literal).filter (exists_ disk) with
    | some found => return some found
    | none => return (c.far literal).find? (exists_ disk)

end IncludeConfig

end ShaderAnalysis
