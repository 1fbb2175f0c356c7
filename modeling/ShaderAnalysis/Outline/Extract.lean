import ShaderAnalysis.Outline.Code
import ShaderAnalysis.Outline.Shader
import ShaderAnalysis.Language

/-!
# Extraction

The outline of a text in either language. Extraction never fails: a text without recognisable
constructs has an empty outline. It can only be cancelled.
-/

namespace ShaderAnalysis.Outline

/-- The outline of a prepared source. -/
def ofSource (language : Language) (source : Source) : Outline :=
  match language with
  | .hlsl => empty.addCode source source.whole
  | .shaderLab => empty.addShaderDocument source

/-- The outline of a text. -/
def extract (language : Language) (text : String) : Outline :=
  ofSource language (.ofText text)

/-- The outline of a text, unless the scans are cancelled. -/
def scan (oracle : Oracle) (language : Language) (text : String) : Except Cancelled Outline := do
  return ofSource language (← Source.scan oracle text)

end ShaderAnalysis.Outline
