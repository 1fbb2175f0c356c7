import ShaderAnalysis.Text.Words

/-!
# Words that can be looked up
-/

namespace ShaderAnalysis

/-- File extensions, which are words of included paths. -/
def extensionWords : List String :=
  ["hlsl", "hlsli", "cginc", "compute", "shader"]

/-- Whether a word can name a declaration: it is no number and no file extension. -/
def isNavigable (word : String) : Bool :=
  !word.isEmpty && !word.toList.all Char.isDigit && !extensionWords.any (Text.sameIgnoringAsciiCase word)

end ShaderAnalysis
