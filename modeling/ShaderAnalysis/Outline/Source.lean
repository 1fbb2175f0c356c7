import ShaderAnalysis.Lexical.Brackets
import ShaderAnalysis.Lexical.Mask
import ShaderAnalysis.Scan.Search

/-!
# Prepared sources

What extraction reads: the text with its comments masked, and the regions of that text.
-/

namespace ShaderAnalysis

/-- A text prepared for extraction. -/
structure Source where
  text : String
  brackets : Brackets

namespace Source

/-- Prepares a text, unless the scans are cancelled. -/
def scan (oracle : Oracle) (text : String) : Except Cancelled Source := do
  let (masked, asked) ← Lexical.maskScan oracle 0 text
  let (brackets, _) ← Brackets.scan oracle asked masked
  return ⟨masked, brackets⟩

/-- Prepares a text. -/
def ofText (text : String) : Source :=
  let masked := Lexical.mask text
  ⟨masked, Brackets.ofText masked⟩

/-- All of the text. -/
def whole (s : Source) : Span :=
  .between 0 s.text.utf8ByteSize

/-- The text of a span. -/
def slice (s : Source) (span : Span) : String :=
  Text.slice s.text span

/-- Every construct in a span. -/
def findAll {α : Type} (s : Source) (span : Span) (scanner : Scanner α) : List (Found α) :=
  scanner.findAll (.ofSpan s.text span)

/-- The names after `struct` and `class` in a span. -/
def declaredTypes (s : Source) (span : Span) : List String :=
  (s.findAll span declaredType).map (·.value.text)
where
  /-- The name of a declared type. -/
  declaredType : Scanner Lexeme := do
    let keyword ← Scanner.wordFromStart
    guard (keyword.text == "struct" || keyword.text == "class")
    Scanner.gap
    Scanner.word

end Source

end ShaderAnalysis
