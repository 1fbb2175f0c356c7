import ShaderAnalysis.Hlsl.Functions
import ShaderAnalysis.Hlsl.Semantics
import ShaderAnalysis.Hlsl.Types

/-!
# The builtins by name

All builtins in the order in which they are offered, and how one is found by its name.
-/

namespace ShaderAnalysis.Hlsl

/-- The builtin types by group. -/
def typeGroups : List (TypeCategory × List String) :=
  [(.scalar, scalarTypes), (.vector, vectorTypes), (.matrix, matrixTypes), (.sampler, samplerTypes),
    (.texture, textureTypes), (.writableTexture, writableTextureTypes), (.buffer, bufferTypes)]

/-- The builtin types. -/
def types : List Builtin :=
  typeGroups.flatMap fun (category, names) => names.map (Builtin.type · category)

/-- The keywords, and the attribute of compute kernels. -/
def keywordBuiltins : List Builtin :=
  (keywords ++ ["numthreads"]).map Builtin.keyword

/-- The snippets of compute shaders. -/
def snippets : List Builtin :=
  [.snippet "numthreads" "Thread group size attribute" "[numthreads($\x7b1:8\x7d, $\x7b2:8\x7d, $\x7b3:1\x7d)]",
    .snippet "kernel" "Compute kernel"
      ("#pragma kernel $\x7b1:CSMain\x7d\n\n[numthreads($\x7b2:8\x7d, $\x7b3:8\x7d, $\x7b4:1\x7d)]\n" ++
        "void $\x7b1:CSMain\x7d(uint3 id : SV_DispatchThreadID)\n\x7b\n\t$0\n\x7d")]

/-- The builtin function of this name. -/
def function? (name : String) : Option Builtin :=
  functions.find? (·.label == name)

/-- The semantic of this name; one in another case is taken if there is none in this case. -/
def semantic? (name : String) : Option Builtin :=
  (semantics.find? (·.label == name)).or
    (semantics.find? fun s => Text.sameIgnoringAsciiCase s.label name)

/-- A name without the number at its end. -/
def family (name : String) : String :=
  String.ofList (Text.trimEndWhile Char.isDigit name.toList)

/-- The semantic of this name, or the first one of its family. -/
def semanticFamily? (name : String) : Option Builtin :=
  (semantic? name).or
    (semantics.find? fun s => Text.sameIgnoringAsciiCase (family s.label) (family name))

end ShaderAnalysis.Hlsl
