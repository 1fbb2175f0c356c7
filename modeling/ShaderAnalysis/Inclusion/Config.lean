import ShaderAnalysis.Files.Path

/-!
# Where included files are looked for
-/

namespace ShaderAnalysis

/-- The places that the resolution of includes depends on: the library of the engine, the project
with its packages, directories that stand for packages, and the folders of the workspace. -/
structure IncludeConfig where
  library : Option Path
  project : Option Path
  mappings : List (String × Path)
  roots : List Path
  deriving DecidableEq, Repr, Inhabited

end ShaderAnalysis
