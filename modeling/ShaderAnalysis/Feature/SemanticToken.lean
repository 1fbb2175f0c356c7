import ShaderAnalysis.Workspace.Session

/-!
# Semantic tokens

The types and names of the declarations in the code regions of a shader, for highlighting. Tokens are
sent in the order of their places, each by its distance to the one before.
-/

namespace ShaderAnalysis

/-- What a token is. -/
inductive TokenType where
  | type
  | class_
  | struct
  | parameter
  | variable
  | property
  | method
  | macro_
  | modifier
  deriving DecidableEq, Repr, Inhabited

namespace TokenType

/-- All types in the order of the legend. -/
def legend : List TokenType :=
  [.type, .class_, .struct, .parameter, .variable, .property, .method, .macro_, .modifier]

/-- The name of a type. -/
def name : TokenType → String
  | .type => "type"
  | .class_ => "class"
  | .struct => "struct"
  | .parameter => "parameter"
  | .variable => "variable"
  | .property => "property"
  | .method => "method"
  | .macro_ => "macro"
  | .modifier => "modifier"

/-- The place of a type in the legend. -/
def index (t : TokenType) : Nat :=
  legend.idxOf t

end TokenType

/-- A token at its place. -/
structure RawToken where
  line : Nat
  column : Nat
  length : Nat
  type : TokenType
  deriving DecidableEq, Repr

/-- A token as it is sent: how many lines and columns behind the one before it starts. Columns count
from the start of the line if the line is another one. -/
structure EncodedToken where
  deltaLine : Nat
  deltaStart : Nat
  length : Nat
  type : Nat
  deriving DecidableEq, Repr

namespace RawToken

/-- Whether `a` does not come after `b`. -/
def precedes (a b : RawToken) : Bool :=
  a.line < b.line || (a.line == b.line && a.column ≤ b.column)

def samePlace (a b : RawToken) : Bool :=
  a.line == b.line && a.column == b.column

/-- Of neighbours at one place, the first one. -/
def firstAtPlace : List RawToken → List RawToken
  | [] => []
  | t :: rest =>
    match firstAtPlace rest with
    | [] => [t]
    | next :: after => if t.samePlace next then t :: after else t :: next :: after

/-- Tokens in order, seen from a place. -/
def encodeFrom (line column : Nat) : List RawToken → List EncodedToken
  | [] => []
  | t :: rest =>
    ⟨t.line - line, if t.line = line then t.column - column else t.column, t.length, t.type.index⟩ ::
      encodeFrom t.line t.column rest

/-- Tokens as they are sent; of several tokens at one place the first one counts. -/
def encode (tokens : List RawToken) : List EncodedToken :=
  encodeFrom 0 0 (firstAtPlace (tokens.mergeSort precedes))

end RawToken

/-- Whether a type is a scalar, vector or matrix of the common kinds. -/
def isArithmeticName (name : String) : Bool :=
  let isSize := fun c : Char => '1' ≤ c && c ≤ '4'
  ["fixed", "float", "int", "half"].any fun base =>
    base.toList.isPrefixOf name.toList &&
      match name.toList.drop base.length with
      | [] => true
      | [rows] => isSize rows
      | [rows, x, columns] => isSize rows && x == 'x' && isSize columns
      | _ => false

/-- How the type in a declaration is shown. -/
def TokenType.ofTypeName (name : String) : TokenType :=
  if isArithmeticName name then .macro_ else if name == "sampler2D" then .type else .struct

namespace Analysis

/-- A letter or digit of any script, or an underscore. -/
def isNameChar (c : Char) : Bool :=
  Text.isAlphanumeric c || c == '_'

/-- The place of the last occurrence of a whole word in text, which is given in reverse and ends at
`stop`; `after` is the character behind it. -/
def lastWord? (word : List Char) (stop : Nat) (after : Option Char) : List Char → Option Span
  | [] => none
  | c :: cs =>
    let rest := (c :: cs).drop word.length
    if word.isPrefixOf (c :: cs) && !after.any isNameChar && !rest.head?.any isNameChar then
      some (.between (stop - Text.length8 word) stop)
    else
      lastWord? word (stop - c.utf8Size) (some c) cs

/-- Where the type of a declaration stands: the word that the detail starts with, where it stands whole
before the name, else the word that the declaration starts with. -/
def typeSpan? (a : Analysis) (s : Symbol) : Option Span :=
  let word := s.detail.toList.takeWhile isNameChar
  let head := (Text.slice a.text (.between s.span.start s.selection.start)).toList
  let found := if word.isEmpty then none else lastWord? word.reverse s.selection.start none head.reverse
  found.or (a.document.wordAt? s.span.start)

/-- The token of a span, if it is not empty and on one line. -/
def token? (a : Analysis) (span : Span) (kind : TokenType) : Option RawToken :=
  let range := a.document.rangeOf span
  if range.start.line = range.stop.line ∧ range.start.character < range.stop.character then
    some ⟨range.start.line, range.start.character, range.stop.character - range.start.character, kind⟩
  else
    none

/-- The token of the type of a declaration. -/
def typeToken? (a : Analysis) (s : Symbol) : Option RawToken := do
  let span ← a.typeSpan? s
  a.token? span (.ofTypeName (Text.slice a.text span))

/-- The tokens of a symbol: those of its type or keyword and of its name. -/
def tokensOf (a : Analysis) (s : Symbol) : List RawToken :=
  match s.kind with
  | .struct =>
    ((a.document.wordAt? s.span.start).bind (a.token? · .macro_)).toList ++ (a.token? s.selection .struct).toList
  | .field => (a.typeToken? s).toList ++ (a.token? s.selection .property).toList
  | .variable => (a.typeToken? s).toList ++ (a.token? s.selection .variable).toList
  | _ => []

/-- The tokens of the declarations in code regions. -/
def regionTokens (a : Analysis) : List RawToken :=
  (a.outline.preorder.filter fun id => (a.symbol id).isCodeRegion).flatMap fun region =>
    (a.outline.preorderBelow region).tail.flatMap fun id => a.tokensOf (a.symbol id)

end Analysis

namespace View

/-- The tokens of a document; only shaders have any. -/
def semanticTokens (v : View) (uri : Uri) : Query (List EncodedToken) := do
  match (← v.analysis uri).filter (·.language == .shaderLab) with
  | none => return []
  | some a => return RawToken.encode a.regionTokens

end View

end ShaderAnalysis
