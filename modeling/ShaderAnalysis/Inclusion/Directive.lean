import ShaderAnalysis.Lexical.Mask
import ShaderAnalysis.Scan.Search
import ShaderAnalysis.Text.Words

/-!
# Include directives

The `#include` directives of a text in order, with the spans of the whole directive and of the path
between its delimiters. Directives in comments do not count.
-/

namespace ShaderAnalysis

/-- An include directive. -/
structure Directive where
  path : String
  pathSpan : Span
  span : Span
  angled : Bool
  deriving DecidableEq, Repr

namespace Directive

open Scanner

/-- How paths into packages start. -/
def packagesRoot : String := "Packages/"

/-- Whether the path leads into a package. -/
def isPackagePath (d : Directive) : Bool :=
  packagesRoot.toList.isPrefixOf d.path.toList

/-- A directive: the path as written, and whether its opening delimiter is an angle bracket. -/
def scanner : Scanner (Lexeme × Bool) := do
  char '#'
  blanks
  literal "include"
  blanks
  let delimiter ← satisfy fun c => c == '"' || c == '<'
  let path ← run fun c => !(['"', '<', '>', '\r', '\n'].contains c)
  discard (satisfy fun c => c == '"' || c == '>')
  return (path, delimiter == '<')

/-- The directives of a text, in order. -/
def all (text : String) : List Directive :=
  (scanner.findAll (.ofText (Lexical.mask text) 0)).map fun found =>
    let (path, angled) := found.value
    ⟨Text.trimmed path.text, path.span, found.span, angled⟩

/-- The directive whose path a cursor at `offset` is at. -/
def at? (directives : List Directive) (offset : Nat) : Option Directive :=
  directives.find? (·.pathSpan.touches offset)

/-- The first directive that starts on the line of `offset`. -/
def onLine? (directives : List Directive) (text : String) (offset : Nat) : Option Directive :=
  let bs := Text.bytes text
  let offset := min offset bs.length
  let start := offset - ((bs.take offset).reverse.takeWhile (· != 10)).length
  let stop := offset + ((bs.drop offset).takeWhile (· != 10)).length
  directives.find? fun d => start ≤ d.span.start && d.span.start ≤ stop

end Directive

end ShaderAnalysis
