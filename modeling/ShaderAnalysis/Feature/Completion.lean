import ShaderAnalysis.Code.Compute
import ShaderAnalysis.Code.Locals
import ShaderAnalysis.Hlsl.Database
import ShaderAnalysis.Hlsl.Swizzle
import ShaderAnalysis.Workspace.IncludeGraph

/-!
# Completions

What can be inserted at a cursor. What is offered depends on the text before the cursor on its line:
nothing in comments and included paths, fields and swizzles behind a dot, semantics behind a colon,
and all names otherwise. Of two offers for one name the first one stays.
-/

namespace ShaderAnalysis

/-! ## Contexts -/

/-- Where a cursor is. -/
inductive CursorContext where
  | silent
  | member (receiver : String)
  | semantic
  | general
  deriving DecidableEq, Repr

namespace CursorContext

open Scanner

/-- The start of an include directive whose path goes on up to the end. -/
def openInclude : Scanner Unit := do
  char '#'
  blanks
  literal "include"
  blanks
  discard (satisfy fun c => c == '"' || c == '<')
  discard (runAny fun c => c != '"' && c != '>')
  require (·.rest.isEmpty)

/-- The text, given in reverse, before the word at its end and the blanks before that. -/
def beforeWord (reversed : List Char) : List Char :=
  (reversed.dropWhile Text.isWordChar).dropWhile Text.isBlank

/-- The word before the dot behind which the text ends, perhaps with the start of a word. -/
def receiver? (reversed : List Char) : Option String :=
  match beforeWord reversed with
  | '.' :: rest =>
    let word := (rest.takeWhile Text.isWordChar).reverse
    if word.isEmpty then none else some (String.ofList word)
  | _ => none

/-- Whether the text ends behind a colon, perhaps with the start of a word; two colons do not count. -/
def isBehindColon (reversed : List Char) : Bool :=
  (beforeWord reversed).head? == some ':' && !"::".toList.isPrefixOf (reversed.dropWhile Text.isBlank)

/-- The text before a cursor on its line. -/
def linePrefix (text : String) (offset : Nat) : List Char :=
  (((Text.upTo text offset).toList.reverse).takeWhile (· != '\n')).reverse

/-- Where a cursor is. -/
def at_ (text : String) (offset : Nat) : CursorContext :=
  let line := linePrefix text offset
  if (Lexical.classAt text offset).isComment then silent
  else if (openInclude.findFirst ⟨none, 0, line⟩).isSome then silent
  else
    match receiver? line.reverse with
    | some receiver => member receiver
    | none => if isBehindColon line.reverse then semantic else general

end CursorContext

/-! ## Items -/

/-- What kind of thing an item inserts. -/
inductive CompletionKind where
  | function
  | field
  | variable
  | class_
  | property
  | keyword
  | snippet
  | constant
  | struct
  deriving DecidableEq, Repr

/-- An offer to insert something. Items are ordered by `sortText`, and compared with what has been
typed by `filterText`, or else by their label. `hasPlaceholders` is none if nothing is said about the
inserted text. -/
structure CompletionItem where
  label : String
  kind : CompletionKind
  description : Option (Option String) := none
  detail : Option String := none
  documentation : Option String := none
  sortText : Option String := none
  filterText : Option String := none
  insertText : Option String := none
  hasPlaceholders : Option Bool := none
  opensSignatureHelp : Bool := false
  deriving DecidableEq, Repr

namespace CompletionItem

/-- The name that the item is for. -/
def key (item : CompletionItem) : String :=
  item.filterText.getD item.label

/-- The text, if there is any. -/
def nonempty (s : String) : Option String :=
  if s.isEmpty then none else some s

/-- The kind of item that a builtin makes. -/
def kindOf : Hlsl.BuiltinKind → CompletionKind
  | .keyword => .keyword
  | .type _ => .class_
  | .function _ => .function
  | .semantic _ => .constant
  | .snippet => .snippet

/-- An item for a builtin, sorted under `group`. -/
def ofBuiltin (b : Hlsl.Builtin) (group : String) : CompletionItem where
  label := b.label
  kind := kindOf b.kind
  detail := some b.detail
  documentation := nonempty b.documentation
  sortText := some (group ++ "_" ++ b.label)
  insertText := b.insertion
  hasPlaceholders := some (b.hasPlaceholders || b.insertion.any (·.toList.contains '$'))

/-- An item for a type; types are sorted by their group. -/
def ofType (b : Hlsl.Builtin) : CompletionItem :=
  let category := b.typeCategory?.getD .buffer
  let item := ofBuiltin b (toString category.index)
  if category = .writableTexture then { item with detail := some "HLSL RW Texture (Compute Shader)" } else item

/-- An item for a keyword. -/
def ofKeyword (b : Hlsl.Builtin) : CompletionItem :=
  let item := ofBuiltin b "7"
  if b.label == "numthreads" || b.label == "groupshared" then
    { item with detail := some "Compute Shader Keyword" }
  else
    item

/-- An item for a function; functions are sorted by their group. -/
def ofFunction (b : Hlsl.Builtin) : CompletionItem :=
  let category := b.functionCategory?
  { ofBuiltin b ("8_" ++ toString (category.elim 0 (·.index))) with
    description := category.map fun c => some c.name }

/-- An item for a semantic; those of compute shaders come first in a compute shader. -/
def ofSemantic (b : Hlsl.Builtin) (isCompute : Bool) : CompletionItem :=
  ofBuiltin b (if isCompute && b.stage? == some .compute then "0" else "9")

/-- An item for a swizzle. -/
def ofSwizzle (type label : String) : CompletionItem where
  label
  kind := .property
  detail := some (type ++ " swizzle")

/-- An item for a visible variable. -/
def ofLocal (l : ScopeLocal) : CompletionItem where
  label := l.name
  kind := .variable
  detail := some (l.type ++ " " ++ l.name ++ (match l.origin with
    | .block => " (Local)"
    | .parameter => " (Param)"))
  sortText := some ("00_" ++ l.name)

/-- An item for a field. -/
def ofField (s : Symbol) : CompletionItem where
  label := s.name
  kind := .field
  description := some (nonempty s.detail)
  detail := nonempty s.detail
  sortText := some ("0_" ++ s.name)

/-- An item for the call of a function. -/
def ofCallable (a : Analysis) (id : Nat) (group : String) (file : Option String) : CompletionItem :=
  let s := a.symbol id
  let parameters := a.parameters id
  let signature := a.signatureLabel id
  { label := s.name ++ "(" ++ ", ".intercalate (parameters.map fun p => (a.symbol p).name) ++ ")"
    kind := .function
    detail := some signature
    documentation := some ("\x60\x60\x60hlsl\n" ++ signature ++ "\n\x60\x60\x60\n\n*Defined in: " ++
      file.getD a.document.fileName ++ "*")
    sortText := some (group ++ "_" ++ s.name)
    filterText := some s.name
    insertText := some (s.name ++ (if parameters.isEmpty then "()" else "("))
    opensSignatureHelp := !parameters.isEmpty }

/-- An item for a symbol that is not called. -/
def ofName (s : Symbol) (kind : CompletionKind) (group : String) (file : Option String) : CompletionItem where
  label := s.name
  kind
  detail := nonempty (if s.detail.isEmpty then file.getD "" else s.detail)
  sortText := some (group ++ "_" ++ s.name)

/-- An item for a symbol, sorted under `group`; `file` is the file that it is defined in, if that is
another one. Files, regions and directives are not offered. -/
def ofSymbol? (a : Analysis) (group : String) (file : Option String) (id : Nat) : Option CompletionItem :=
  let s := a.symbol id
  match s.kind with
  | .module | .package | .file => none
  | .function | .method => some (ofCallable a id group file)
  | .struct | .class_ => some (ofName s .struct group file)
  | .constant => some (ofName s .constant group file)
  | .field => some (ofName s .field group file)
  | .property => some (ofName s .property group file)
  | .variable => some (ofName s .variable group file)

/-- The items without those for a name that an earlier one is for; snippets always stay. -/
def onePerName (seen : List String) : List CompletionItem → List CompletionItem
  | [] => []
  | item :: rest =>
    if item.kind = .snippet then item :: onePerName seen rest
    else if seen.contains item.key then onePerName seen rest
    else item :: onePerName (item.key :: seen) rest

end CompletionItem

/-! ## Types of receivers -/

/-- The word that a detail starts with, without an array size or a semantic. -/
def baseType? (detail : String) : Option String :=
  match Text.words detail.toList with
  | [] => none
  | first :: _ => CompletionItem.nonempty (String.ofList (first.takeWhile fun c => c != '[' && c != ':'))

open Scanner in
/-- A type in front of the name of the receiver. -/
def receiverDeclaration (receiver : String) : Scanner String := do
  let type ← wordFromStart
  guard (type.text.toList.head?.any Text.isIdentStart)
  discard (run (· == ' '))
  literal receiver
  require Cursor.atWordEnd
  return type.text

/-- The type of a receiver in a shader: that of its last declaration before the cursor. -/
def receiverType? (text : String) (offset : Nat) (receiver : String) : Option String :=
  ((((receiverDeclaration receiver).findAll (.ofText (Lexical.mask (Text.upTo text offset)) 0)).map
    (·.value)).filter fun type => !Hlsl.isDeclarationGuard type).getLast?

namespace FoundSymbol

/-- Items for the fields of a type. -/
def fieldItems (f : FoundSymbol) : List CompletionItem :=
  (((f.analysis.outline.children f.id).map f.analysis.symbol).filter (·.kind == .field)).map CompletionItem.ofField

end FoundSymbol

namespace View

/-- Whether a symbol has a type. -/
def hasType (s : Symbol) : Bool :=
  s.kind == .variable || s.kind == .field

/-- The type of a receiver in code, as it is written. -/
def receiverDetail (v : View) (a : Analysis) (offset : Nat) (receiver : String) : Query (Option String) := do
  match Scope.typeOf? a.text offset receiver with
  | some type => return some type
  | none => return (← v.find a receiver hasType).map (·.symbol.detail)

/-- What is offered behind a dot in code: the fields of the type, else its swizzles. -/
def memberItems (v : View) (a : Analysis) (offset : Nat) (receiver : String) : Query (List CompletionItem) := do
  match (← v.receiverDetail a offset receiver).bind baseType? with
  | none => return []
  | some type =>
    let fields := (← v.find a type (·.kind.isType)).elim [] FoundSymbol.fieldItems
    return if fields.isEmpty then (Hlsl.swizzles type).map (CompletionItem.ofSwizzle type) else fields

/-- What is offered behind a dot in a shader: the fields of a type of the document. -/
def shaderMemberItems (a : Analysis) (offset : Nat) (receiver : String) : List CompletionItem :=
  ((receiverType? a.text offset receiver).bind fun type => a.find? type (·.kind.isType)).elim []
    FoundSymbol.fieldItems

/-- What is offered behind a colon. -/
def semanticItems (d : Document) : List CompletionItem :=
  Hlsl.semantics.map (CompletionItem.ofSemantic · d.isCompute)

/-- All builtins that are offered in a document. -/
def builtinItems (d : Document) : List CompletionItem :=
  Hlsl.types.map CompletionItem.ofType ++ Hlsl.keywordBuiltins.map CompletionItem.ofKeyword ++
    Hlsl.functions.map CompletionItem.ofFunction ++
    (if d.isCompute then Hlsl.snippets.map (CompletionItem.ofBuiltin · "9") else [])

/-- Items for the symbols of a document. -/
def symbolItems (a : Analysis) (group : String) (file : Option String) : List CompletionItem :=
  a.outline.preorder.filterMap (CompletionItem.ofSymbol? a group file)

/-- What is offered everywhere else: visible variables, builtins, the symbols of the document and those
of included files, nearer ones first. -/
def generalItems (v : View) (a : Analysis) (offset : Nat) : Query (List CompletionItem) := do
  let included ← v.reachIncluded never a (← v.includes a)
  return CompletionItem.onePerName [] ((Scope.localsAt a.text offset).map CompletionItem.ofLocal ++
    builtinItems a.document ++ symbolItems a "a" none ++
    included.flatMap fun (b, _) => symbolItems b "b" (some b.document.fileName))

/-- What is offered at a position. -/
def completion (v : View) (uri : Uri) (position : Position) : Query (List CompletionItem) := do
  match ← v.analysis uri with
  | none => return []
  | some a =>
    match a.document.offsetOf? position with
    | none => return []
    | some offset =>
      match a.language, CursorContext.at_ a.text offset with
      | .hlsl, .member receiver => v.memberItems a offset receiver
      | .hlsl, .semantic => return semanticItems a.document
      | .hlsl, .general => v.generalItems a offset
      | .shaderLab, .member receiver => return shaderMemberItems a offset receiver
      | _, _ => return []

end View

end ShaderAnalysis
