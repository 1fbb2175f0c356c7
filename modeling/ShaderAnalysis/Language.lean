import ShaderAnalysis.Text.Words

/-!
# The two languages

ShaderLab is the declarative wrapper of a shader, with regions of code in it; HLSL is plain code.
-/

namespace ShaderAnalysis

/-- The language of a document. -/
inductive Language where
  | shaderLab
  | hlsl
  deriving DecidableEq, Repr, Inhabited

namespace Language

/-- The language with the identifier that a client gives; case does not matter. -/
def ofId? (id : String) : Option Language :=
  match Text.asciiLower id with
  | "shaderlab" => some .shaderLab
  | "hlsl" | "cg" => some .hlsl
  | _ => none

/-- The identifier of a language. -/
def id : Language → String
  | .shaderLab => "shaderlab"
  | .hlsl => "hlsl"

/-- The language of files with this extension; case does not matter. -/
def ofExtension? (extension : String) : Option Language :=
  match Text.asciiLower extension with
  | "shader" => some .shaderLab
  | "hlsl" | "hlsli" | "cginc" | "compute" | "fx" | "fxh" => some .hlsl
  | _ => none

@[simp] theorem ofId?_id (l : Language) : ofId? l.id = some l := by
  cases l <;> decide +kernel

end Language

/-- The extensions of the files that workspace scans and the file watcher look at. -/
def shaderFamilyExtensions : List String :=
  ["shader", "cginc", "hlsl", "hlsli", "compute"]

/-- The pattern under which the client watches these files. -/
def shaderFamilyGlob : String :=
  "**/*.\x7bshader,cginc,hlsl,hlsli,compute\x7d"

end ShaderAnalysis
