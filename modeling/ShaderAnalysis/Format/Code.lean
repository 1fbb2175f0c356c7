import ShaderAnalysis.Format.Spacing
import ShaderAnalysis.Format.Indentation

/-!
# Formatting

Formatting takes the text apart into lines, spaces the tokens of each line and indents the lines by
their nesting. Only blanks are added and removed.
-/

namespace ShaderAnalysis

namespace Format

/-- The bounds of the number of spaces of one level. -/
def minTabSize : Nat := 1

def maxTabSize : Nat := 16

/-- The nearest number of spaces within the bounds. -/
def clampTabSize (n : Nat) : Nat :=
  max minTabSize (min n maxTabSize)

/-- The characters of a formatted text: each line with a line feed, and nothing but one line feed at
the end. -/
def joinLines (lines : List (List Char)) : List Char :=
  Text.trimEndWhile (· == '\n') (lines.flatMap (· ++ ['\n'])) ++ ['\n']

/-- The formatted characters. -/
def formatChars (text : List Char) (tabSize : Nat) : List Char :=
  let lines := (splitText (text.filter (· != '\r'))).map Line.respaced
  joinLines (indentLines (clampTabSize tabSize) lines)

end Format

/-- The text, formatted with this number of spaces for a level. -/
def formatCode (text : String) (tabSize : Nat) : String :=
  String.ofList (Format.formatChars text.toList tabSize)

end ShaderAnalysis
