import ShaderAnalysis.Document.Basic
import ShaderAnalysis.Scan.Search

/-!
# Compute shaders

A document is a compute shader if its file says so, or if it declares a kernel or a resource that is
written.
-/

namespace ShaderAnalysis

open Scanner in
/-- What only a compute shader contains. -/
def computeMarker : Scanner Unit :=
  (do literal "[numthreads"; blanks; char '(') <|> literal "RWTexture" <|> literal "RWStructuredBuffer"

/-- Whether the document is a compute shader. -/
def Document.isCompute (d : Document) : Bool :=
  ".compute".toList.isSuffixOf (Text.asciiLower d.uri.path).toList ||
    (computeMarker.findFirst (.ofText d.text 0)).isSome

end ShaderAnalysis
