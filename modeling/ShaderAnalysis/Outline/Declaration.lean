import ShaderAnalysis.Outline.Basic
import ShaderAnalysis.Outline.Source
import ShaderAnalysis.Hlsl.Types

/-!
# Declarations

The declarations that plain code and the code regions of a shader have in common: structs,
functions, their parameters and locals, and the members of structs. Each is recognised by a scanner;
recording puts what was recognised into an outline.
-/

namespace ShaderAnalysis.Outline

open Scanner

/-! ## Recognising -/

/-- A size in square brackets. -/
def arraySize : Scanner Lexeme := do
  blanks
  char '['
  blanks
  let size ← word
  blanks
  char ']'
  return size

/-- The word behind a colon. -/
def semantic : Scanner Lexeme := do
  blanks
  char ':'
  blanks
  word

/-- Everything up to the next closing parenthesis, which there has to be. -/
def argumentText : Scanner Lexeme := do
  char '('
  let inner ← runAny (· != ')')
  char ')'
  return inner

/-- The place that a resource is bound to, behind a colon. -/
def registerBinding : Scanner Unit := do
  blanks
  char ':'
  blanks
  literal "register"
  blanks
  let inner ← argumentText
  guard !inner.text.isEmpty

/-- A struct up to its opening brace; the value is its name. -/
def structHeader : Scanner Lexeme := do
  let keyword ← wordFromStart
  guard (keyword.text == "struct")
  gap
  let name ← word
  blanks
  char '\x7b'
  return name

/-- A function up to its opening brace. -/
structure FunctionHeader where
  returns : Lexeme
  name : Lexeme
  params : Span
  semantic : Option Lexeme

/-- A return type, a name, parameters, perhaps a semantic, and an opening brace. -/
def functionHeader : Scanner FunctionHeader := do
  let returns ← wordFromStart
  gap
  let name ← word
  blanks
  let params ← argumentText
  let semantic ← optional semantic
  blanks
  char '\x7b'
  return ⟨returns, name, params.span, semantic⟩

/-- Whether a statement looks like this header. -/
def FunctionHeader.isStatement (h : FunctionHeader) : Bool :=
  Hlsl.isDeclarationGuard h.returns.text || Hlsl.isDeclarationGuard h.name.text

/-- A type and a name with what belongs to them. -/
structure Declarator where
  type : Lexeme
  name : Lexeme
  sizes : List Lexeme
  semantic : Option Lexeme

/-- A member of a struct, with a size before or behind its semantic. -/
def structMember : Scanner Declarator := do
  let type ← wordFromStart
  gap
  let name ← word
  let first ← optional arraySize
  let semantic ← optional semantic
  let second ← optional arraySize
  blanks
  char ';'
  return ⟨type, name, first.toList ++ second.toList, semantic⟩

/-- An initial value: everything up to the next semicolon. -/
def initializer : Scanner Unit := do
  blanks
  char '='
  discard (run (· != ';'))

/-- A local declaration, perhaps with an initial value. -/
def localDeclaration : Scanner Declarator := do
  let type ← wordFromStart
  gap
  let name ← word
  discard (optional initializer)
  blanks
  char ';'
  return ⟨type, name, [], none⟩

/-- Words with gaps between them, as many as there are within `fuel`. -/
def wordsWithin (gap : Scanner Unit) : Nat → Scanner (List Lexeme)
  | 0 => pure []
  | fuel + 1 => do
    let w ← word
    let more ← optional (do gap; wordsWithin gap fuel)
    return w :: more.getD []

/-- The longest row of words with gaps between them. -/
def wordRow (gap : Scanner Unit) : Scanner (List Lexeme) := do
  wordsWithin gap (← get).rest.length

/-- Words that may stand before the type of a parameter. -/
def parameterModifiers : List String :=
  ["in", "out", "inout", "uniform", "const", "point", "line", "triangle", "lineadj", "triangleadj"]

/-- The type and name at the head of a row of words: behind as many modifiers as leave two words. -/
def typeAndName? (modifiers : List String) : List Lexeme → Option (Lexeme × Lexeme)
  | type :: name :: [] => some (type, name)
  | type :: name :: rest =>
    if modifiers.contains type.text then typeAndName? modifiers (name :: rest) else some (type, name)
  | _ => none

/-- The type and name of a parameter. -/
def parameter : Scanner (Lexeme × Lexeme) := do
  let row ← wordRow gap
  match typeAndName? parameterModifiers row with
  | some found => return found
  | none => failure

/-! ## Splitting lists -/

/-- The pieces of a list, the first of which starts with the characters `piece` in reverse: commas
separate pieces unless a bracket is open. -/
def splitListFrom (depth : Int) (piece : List Char) : List Char → List (List Char)
  | [] => if Text.trim piece.reverse = [] then [] else [piece.reverse]
  | c :: cs =>
    if c == '(' || c == '<' || c == '[' then splitListFrom (depth + 1) (c :: piece) cs
    else if c == ')' || c == '>' || c == ']' then splitListFrom (depth - 1) (c :: piece) cs
    else if c == ',' && depth ≤ 0 then piece.reverse :: splitListFrom depth [] cs
    else splitListFrom depth (c :: piece) cs

/-- The cursors at consecutive pieces, with one character between any two. -/
def cursorsOf (offset : Nat) : List (List Char) → List Cursor
  | [] => []
  | piece :: rest => ⟨none, offset, piece⟩ :: cursorsOf (offset + Text.length8 piece + 1) rest

/-- The pieces of a list between the commas that stand in no bracket; a blank last piece is none. -/
def splitList (text : String) (span : Span) : List Cursor :=
  cursorsOf span.start (splitListFrom 0 [] (Text.slice text span).toList)

/-- The piece without the blanks at either end. -/
def trimPiece (piece : Cursor) : Cursor :=
  let start := piece.takeRun Text.isBlank |>.2
  ⟨none, start.offset, Text.trimEnd start.rest⟩

/-! ## Recording -/

/-- A size as it is shown. -/
def sizeText (size : Option Lexeme) : String :=
  match size with
  | some n => "[" ++ n.text ++ "]"
  | none => ""

/-- Records the members of a struct. -/
def addMembers (t : Outline) (source : Source) (parent : Nat) (body : Span) : Outline :=
  (source.findAll body structMember).foldl (fun t found =>
    let d := found.value
    if Hlsl.isDeclarationGuard d.type.text then t
    else
      let detail := d.type.text ++ sizeText d.sizes.head? ++
        (match d.semantic with | some s => " : " ++ s.text | none => "")
      t.add (some parent) ⟨d.name.text, detail, .field, .between d.type.span.start found.span.stop, d.name.span⟩) t

/-- Records the parameters of a function. -/
def addParameters (t : Outline) (source : Source) (parent : Nat) (list : Span) : Outline :=
  (splitList source.text list).foldl (fun t piece =>
    let piece := trimPiece piece
    match parameter.atStart piece with
    | none => t
    | some (type, name) =>
      let stop := piece.offset + Text.length8 piece.rest
      t.add (some parent) ⟨name.text, type.text, .variable, .between piece.offset stop, name.span⟩) t

/-- Records the locals of a function whose types are among the declared ones or known. -/
def addLocals (t : Outline) (source : Source) (parent : Nat) (body : Span) (declared : List String) : Outline :=
  (source.findAll body localDeclaration).foldl (fun t found =>
    let d := found.value
    if Hlsl.isDeclarationGuard d.name.text || !Hlsl.isDeclarationType d.type.text declared then t
    else t.add (some parent) ⟨d.name.text, d.type.text, .variable, found.span, d.name.span⟩) t

end ShaderAnalysis.Outline
