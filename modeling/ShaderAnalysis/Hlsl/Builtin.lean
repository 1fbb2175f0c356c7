import ShaderAnalysis.Text.Words

/-!
# Builtins

What the shading language provides by itself: keywords, types, functions, semantics and snippets,
each with what a client shows of it. The text that a client inserts for a function has a placeholder
for each parameter of its signature.
-/

namespace ShaderAnalysis.Hlsl

/-- Groups of functions, in the order in which they are offered. -/
inductive FunctionCategory where
  | math
  | texture
  | intrinsic
  | barrier
  | atomic
  | unity
  deriving DecidableEq, Repr

namespace FunctionCategory

/-- The name of a group. -/
def name : FunctionCategory → String
  | math => "math"
  | texture => "texture"
  | intrinsic => "intrinsic"
  | barrier => "barrier"
  | atomic => "atomic"
  | unity => "unity"

/-- The place of a group. -/
def index : FunctionCategory → Nat
  | math => 0
  | texture => 1
  | intrinsic => 2
  | barrier => 3
  | atomic => 4
  | unity => 5

/-- Whether the group is for compute shaders. -/
def isCompute : FunctionCategory → Bool
  | barrier | atomic => true
  | _ => false

end FunctionCategory

/-- Groups of types, in the order in which they are offered. -/
inductive TypeCategory where
  | scalar
  | vector
  | matrix
  | sampler
  | texture
  | writableTexture
  | buffer
  deriving DecidableEq, Repr

namespace TypeCategory

/-- The place of a group. -/
def index : TypeCategory → Nat
  | scalar => 0
  | vector => 1
  | matrix => 2
  | sampler => 3
  | texture => 4
  | writableTexture => 5
  | buffer => 6

/-- The description of a type of this group. -/
def describe : TypeCategory → String
  | scalar => "Scalar type"
  | vector => "Vector type"
  | matrix => "Matrix type"
  | sampler => "Sampler type"
  | texture => "Texture type"
  | writableTexture => "Read-write texture type"
  | buffer => "Buffer type"

end TypeCategory

/-- The pipeline stage that a semantic applies to. -/
inductive Stage where
  | vertex
  | pixel
  | compute
  | all
  deriving DecidableEq, Repr

/-- The name of a stage. -/
def Stage.name : Stage → String
  | vertex => "vertex"
  | pixel => "pixel"
  | compute => "compute"
  | all => "all"

/-- What a builtin is. -/
inductive BuiltinKind where
  | keyword
  | type (category : TypeCategory)
  | function (category : FunctionCategory)
  | semantic (stage : Stage)
  | snippet
  deriving DecidableEq, Repr

/-- A builtin; `insertion` is inserted in place of the label. -/
structure Builtin where
  label : String
  detail : String
  documentation : String
  insertion : Option String
  kind : BuiltinKind
  deriving DecidableEq, Repr

/-! ## Signatures -/

/-- The pieces between the commas outside brackets, the first of which starts with the characters
`piece` in reverse. A blank last piece is none. -/
def splitParameters (depth : Int) (piece : List Char) : List Char → List (List Char)
  | [] =>
    let last := Text.trim piece.reverse
    if last.isEmpty then [] else [last]
  | c :: cs =>
    if c == ',' && depth == 0 then Text.trim piece.reverse :: splitParameters depth [] cs
    else
      let change := if ['(', '<', '['].contains c then 1 else if [')', '>', ']'].contains c then -1 else 0
      splitParameters (depth + change) (c :: piece) cs

/-- The parameters of a signature: what stands between its first opening and its last closing
parenthesis, taken apart at commas. -/
def signatureParameters (signature : String) : List String :=
  match signature.toList.dropWhile (· != '(') with
  | [] => []
  | _ :: behind =>
    match behind.reverse.dropWhile (· != ')') with
    | [] => []
    | _ :: inner => (splitParameters 0 [] inner.reverse).map String.ofList

/-- The name of a parameter for a placeholder: its last word, without square brackets. -/
def placeholderName (number : Nat) (parameter : String) : String :=
  let name := ((Text.words parameter.toList).getLast?.getD []).filter fun c => c != '[' && c != ']'
  if name.isEmpty then "param" ++ toString number else String.ofList name

/-- The placeholders of parameters, numbered from `number` on. -/
def placeholders (number : Nat) : List String → List String
  | [] => []
  | p :: rest =>
    ("$\x7b" ++ toString number ++ ":" ++ placeholderName number p ++ "\x7d") :: placeholders (number + 1) rest

namespace Builtin

def keyword (label : String) : Builtin :=
  ⟨label, "HLSL Keyword", "", none, .keyword⟩

def type (label : String) (category : TypeCategory) : Builtin :=
  ⟨label, "HLSL Type", category.describe, none, .type category⟩

/-- A function; its call is inserted with a placeholder for each parameter. -/
def function (label signature documentation : String) (category : FunctionCategory) : Builtin :=
  let call := label ++ "(" ++ ", ".intercalate (placeholders 1 (signatureParameters signature)) ++ ")"
  ⟨label, signature, documentation, some call, .function category⟩

def semantic (label documentation : String) (stage : Stage) : Builtin :=
  ⟨label, "Semantic (" ++ stage.name ++ ")", documentation, none, .semantic stage⟩

def snippet (label detail text : String) : Builtin :=
  ⟨label, detail, "", some text, .snippet⟩

/-- The parameters of the signature. -/
def parameters (b : Builtin) : List String :=
  signatureParameters b.detail

def isKeyword (b : Builtin) : Bool :=
  b.kind == .keyword

def isSnippet (b : Builtin) : Bool :=
  b.kind == .snippet

def typeCategory? (b : Builtin) : Option TypeCategory :=
  match b.kind with
  | .type c => some c
  | _ => none

def functionCategory? (b : Builtin) : Option FunctionCategory :=
  match b.kind with
  | .function c => some c
  | _ => none

def stage? (b : Builtin) : Option Stage :=
  match b.kind with
  | .semantic s => some s
  | _ => none

/-- Whether what is inserted has placeholders. -/
def hasPlaceholders (b : Builtin) : Bool :=
  b.functionCategory?.isSome || b.isSnippet

end Builtin

end ShaderAnalysis.Hlsl
