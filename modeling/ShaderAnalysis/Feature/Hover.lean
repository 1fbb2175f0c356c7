import ShaderAnalysis.Document.DocComment
import ShaderAnalysis.Feature.Definition
import ShaderAnalysis.Hlsl.Database
import ShaderAnalysis.Hlsl.ReferenceCard
import ShaderAnalysis.Hlsl.Words

/-!
# Hovers

What is shown of the name at a cursor: the included file, the description of a builtin, or the
declaration with its documentation.
-/

namespace ShaderAnalysis

/-- A text to be shown, and the range that it is about. -/
structure Hover where
  markdown : String
  range : Option PositionRange
  deriving DecidableEq, Repr

namespace Hover

/-- A block of code. -/
def codeBlock (language code : String) : String :=
  "\x60\x60\x60" ++ language ++ "\n" ++ code ++ "\n\x60\x60\x60\n"

/-- Text that is shown as code. -/
def codeSpan (code : String) : String :=
  "\x60" ++ code ++ "\x60"

/-- What is shown of a builtin function. -/
def ofFunction (f : Hlsl.Builtin) : String :=
  codeBlock "hlsl" (if f.detail.isEmpty then f.label else f.detail) ++
    (if f.documentation.isEmpty then "" else "\n" ++ f.documentation ++ "\n") ++
    (f.functionCategory?.elim "" fun c => "\n*(Function · " ++ c.name ++ ")*\n")

/-- What is shown of a semantic. -/
def ofSemantic (s : Hlsl.Builtin) : String :=
  "**Semantic**: " ++ codeSpan s.label ++ "\n\n" ++ s.documentation ++ "\n\n*Stage*: " ++
    (s.stage?.elim "all" (·.name))

/-- What is shown of a function of shaders. -/
def ofCard (c : Hlsl.ReferenceCard) : String :=
  codeBlock "shaderlab" c.signature ++ c.description

/-- What is shown of an include directive. -/
def ofInclude (path : String) (file : Option Path) : String :=
  "**Include File**\n\n" ++ codeBlock "hlsl" ("#include \"" ++ path ++ "\"") ++
    match file with
    | some file => "\n" ++ file.text
    | none => "\n*File not found in include paths*"

/-- What a symbol is called. -/
def header (s : Symbol) : String :=
  let labelled := fun label => "**" ++ label ++ "** " ++ codeSpan s.name
  match s.kind with
  | .function | .method => labelled "Function"
  | .struct =>
    labelled (if s.detail == "cbuffer" || s.detail == "tbuffer" then "Constant Buffer" else "Struct")
  | .class_ => labelled "Struct"
  | .variable => labelled "Variable"
  | .field => labelled "Field"
  | .constant => labelled "Macro"
  | .module => labelled "Include"
  | .file | .package | .property => "**" ++ s.name ++ "**"

/-- The words of a text with one space between any two. -/
def collapse (cs : List Char) : String :=
  " ".intercalate ((Text.words cs).map String.ofList)

/-- The text before the first opening brace. -/
def beforeBody (cs : List Char) : List Char :=
  cs.takeWhile (· != '\x7b')

/-- The line that the declaration of a symbol starts on. -/
def lineOf (f : FoundSymbol) : Nat :=
  f.document.lineOf f.symbol.span.start

/-- The offset at which that line starts. -/
def lineStart (f : FoundSymbol) : Nat :=
  (f.document.lineStart? (lineOf f)).getD f.symbol.span.start

/-- The declaration of a symbol on one line. -/
def declaration (f : FoundSymbol) : String :=
  let s := f.symbol
  let line := Text.trimmed ((f.document.lineText? (lineOf f)).getD "")
  match s.kind with
  | .function | .method =>
    let head := collapse (beforeBody (Text.slice f.document.text (.between (lineStart f) f.document.size)).toList)
    if head.isEmpty then line else head
  | .struct | .class_ => (if s.detail.isEmpty then "struct" else s.detail) ++ " " ++ s.name
  | .variable | .field => if s.detail.isEmpty then line else s.detail ++ " " ++ s.name ++ ";"
  | .module => "#include \"" ++ s.name ++ "\""
  | _ => line

/-- What is shown of a declaration in code; the file is named if it is not the document `origin`. -/
def ofSymbol (f : FoundSymbol) (origin : Uri) : String :=
  header f.symbol ++ "\n\n" ++ codeBlock "hlsl" (declaration f) ++
    ((DocComment.above? f.document (lineOf f)).elim "" fun comment => "\n---\n" ++ comment ++ "\n") ++
    (if f.uri = origin then "" else "\n*Defined in: " ++ f.document.fileName ++ "*")

/-- A line without at most `columns` ASCII blanks in front. -/
def dedent (columns : Nat) : List Char → List Char
  | c :: cs => if columns > 0 && Text.isAsciiBlank c then dedent (columns - 1) cs else c :: cs
  | [] => []

/-- A declaration in a shader as it is written; its further lines are moved left as far as the first
one is. -/
def shaderDeclaration (f : FoundSymbol) : String :=
  let s := f.symbol
  let raw := Text.replaceAll ['\r', '\n'] ['\n'] (Text.slice f.document.text s.span).toList
  let cs := match s.kind with
    | .function | .method => Text.trimEnd (beforeBody raw)
    | _ => raw
  let lines := match Text.lines cs with
    | [] => []
    | first :: rest => first :: rest.map (dedent (s.span.start - lineStart f))
  String.ofList (List.intercalate ['\n'] lines) ++ (if s.kind = .variable then ";" else "")

end Hover

namespace View

/-- Whether the last thing before a word on its line is a colon. -/
def followsColon (d : Document) (word : Span) : Bool :=
  let start := min ((d.lineStart? (d.lineOf word.start)).getD 0) word.start
  (Text.trimEnd (Text.slice d.text (.between start word.start)).toList).getLast? == some ':'

/-- The builtin that a word in code stands for, and what is shown of it. -/
def builtinHover? (d : Document) (word : String) (span : Span) : Option String :=
  let semantic := if followsColon d span then Hlsl.semanticFamily? word else none
  (semantic.map Hover.ofSemantic).or ((Hlsl.function? word).map Hover.ofFunction)

/-- What is shown of the directive on the line of a cursor. -/
def includeHover (v : View) (a : Analysis) (d : Directive) : Query Hover := do
  return ⟨Hover.ofInclude d.path (← v.resolveAll a.document.uri [d]).head?, none⟩

/-- What is shown at a cursor in code. -/
def hoverInCode (v : View) (a : Analysis) (offset : Nat) (scan : Option ScanRequest) : Query (Option Hover) := do
  match Directive.onLine? (Directive.all a.text) a.text offset, a.document.wordAt? offset with
  | some d, _ => return some (← v.includeHover a d)
  | none, none => return none
  | none, some span =>
    let word := Text.slice a.text span
    let range := some (a.document.rangeOf span)
    if Hlsl.isKeyword word then return none
    match builtinHover? a.document word span with
    | some shown => return some ⟨shown, range⟩
    | none =>
      if !isNavigable word then return none
      return (← v.findInCode a offset word scan).map fun found => ⟨Hover.ofSymbol found a.document.uri, range⟩

/-- What is shown at a cursor in a shader: a declaration in the document, else a description. -/
def hoverInShader (v : View) (a : Analysis) (offset : Nat) : Query (Option Hover) := do
  match a.document.wordAt? offset with
  | none => return none
  | some span =>
    let word := Text.slice a.text span
    let range := some (a.document.rangeOf span)
    match (← v.findInShader a offset word).filter (·.uri == a.document.uri) with
    | some found => return some ⟨Hover.codeBlock "shaderlab" (Hover.shaderDeclaration found), range⟩
    | none => return (Hlsl.referenceCard? word).map fun card => ⟨Hover.ofCard card, range⟩

/-- What is shown at a position. -/
def hover (v : View) (uri : Uri) (position : Position) (scan : Option ScanRequest) : Query (Option Hover) := do
  match ← v.analysis uri with
  | none => return none
  | some a =>
    match a.document.offsetOf? position, a.language with
    | none, _ => return none
    | some offset, .hlsl => v.hoverInCode a offset scan
    | some offset, .shaderLab => v.hoverInShader a offset

end View

end ShaderAnalysis
