import ShaderAnalysis.Lexical.Mask
import ShaderAnalysis.Scan.Search
import ShaderAnalysis.Hlsl.Words
import ShaderAnalysis.Text.Words

/-!
# Locals in scope

The variables visible at a cursor are read off the text before it, without an outline: the
declarations of the innermost open block, then the parameters in front of that block. Only a bounded
piece of text is looked at, with its comments masked. A name is reported once, so a local hides a
parameter of its name.
-/

namespace ShaderAnalysis

/-- Where a visible variable is declared. -/
inductive LocalOrigin where
  | block
  | parameter
  deriving DecidableEq, Repr

/-- A visible variable. -/
structure ScopeLocal where
  name : String
  type : String
  origin : LocalOrigin
  deriving DecidableEq, Repr

namespace Scope

open Scanner

/-! ## Recognising -/

/-- A word that starts like an identifier. -/
def identifier : Scanner Lexeme := do
  let w ← word
  guard (w.text.toList.head?.any Text.isIdentStart)
  return w

/-- Type arguments in angle brackets. -/
def typeArguments : Scanner Unit := do
  blanks
  char '<'
  discard (run fun c => Text.isWordChar c || Text.isBlank c || c == ',')
  char '>'

/-- A type, perhaps with arguments. -/
def typeName : Scanner String := do
  let c ← get
  let _ ← identifier
  discard (optional typeArguments)
  let stop ← offset
  return String.ofList (takeBytes (stop - c.offset) c.rest)
where
  /-- The characters within the first `n` bytes. -/
  takeBytes (n : Nat) : List Char → List Char
    | [] => []
    | c :: cs => if n = 0 then [] else c :: takeBytes (n - c.utf8Size) cs

/-- Anything in square brackets. -/
def brackets : Scanner Unit := do
  blanks
  char '['
  discard (runAny (· != ']'))
  char ']'

/-- A type and a name, up to what ends a declarator. -/
def declaration : Scanner (String × String) := do
  require Cursor.atWordStart
  let type ← typeName
  gap
  let name ← identifier
  discard (optional brackets)
  blanks
  discard (satisfy fun c => c == '=' || c == ';' || c == ',')
  return (type, name.text)

/-- Words that may stand before the type of a parameter. -/
def parameterModifiers : List String :=
  ["in", "out", "inout", "uniform", "const"]

/-- The construct behind as many modifiers as possible, at most `fuel`. -/
def behindModifiers {α : Type} (inner : Scanner α) : Nat → Scanner α
  | 0 => inner
  | fuel + 1 =>
    (do
      let w ← word
      guard (parameterModifiers.contains w.text)
      gap
      behindModifiers inner fuel) <|> inner

/-- A type and a name. -/
def typedName : Scanner (String × String) := do
  let type ← typeName
  gap
  let name ← identifier
  return (type, name.text)

/-- A parameter behind its modifiers. -/
def parameter : Scanner (String × String) := do
  behindModifiers typedName (← get).rest.length

/-! ## The text before the cursor -/

/-- How many bytes before the cursor are looked at. -/
def windowSize : Nat := 5000

/-- The piece of text before the cursor, with comments masked. -/
def window (text : String) (offset : Nat) : String :=
  let stop := Text.floorBoundary text (min offset text.utf8ByteSize)
  let start := Text.ceilBoundary text (stop - windowSize)
  Lexical.mask (Text.slice text (.between start stop))

/-- Splits text, given in reverse, at the innermost bracket that is open at its end: the text before
the bracket, still in reverse, and the text behind it. -/
def splitAtOpen? (opener closer : Char) (depth : Nat) (inner : List Char) :
    List Char → Option (List Char × List Char)
  | [] => none
  | c :: cs =>
    if c = closer then splitAtOpen? opener closer (depth + 1) (c :: inner) cs
    else if c = opener then
      if depth = 0 then some (cs, inner) else splitAtOpen? opener closer (depth - 1) (c :: inner) cs
    else splitAtOpen? opener closer depth (c :: inner) cs

/-- The text with the contents of all closed blocks blanked out; line feeds stay. -/
def blankBlocks (depth : Nat) : List Char → List Char
  | [] => []
  | c :: cs =>
    if c = '\x7b' then c :: blankBlocks (depth + 1) cs
    else if c = '\x7d' then c :: blankBlocks (depth - 1) cs
    else (if depth > 0 && c != '\n' then ' ' else c) :: blankBlocks depth cs

/-- The text, given in reverse, without a semantic at its end. -/
def dropSemantic (reversed : List Char) : List Char :=
  let name := reversed.takeWhile Text.isWordChar
  match (reversed.dropWhile Text.isWordChar).dropWhile Text.isBlank with
  | ':' :: before => if name.isEmpty then reversed else before.dropWhile Text.isBlank
  | _ => reversed

/-- The header of a block: the word before a list in parentheses, and the list. -/
structure Header where
  head : String
  list : String

/-- The header at the end of the text, which is given in reverse. -/
def header? (reversed : List Char) : Option Header := do
  let before := reversed.dropWhile Text.isBlank
  let before := if before.head? == some ')' then before else dropSemantic before
  match before with
  | ')' :: rest =>
    let (front, inner) ← splitAtOpen? '(' ')' 0 [] rest
    let head := ((front.dropWhile Text.isBlank).takeWhile Text.isWordChar).reverse
    return ⟨String.ofList head, String.ofList inner⟩
  | _ => none

/-! ## Visible variables -/

/-- Words before a list in parentheses that declares nothing. -/
def controlHeads : List String :=
  ["if", "for", "while", "switch"]

/-- The text without any blanks. -/
def squeeze (s : String) : String :=
  String.ofList (s.toList.filter (!Text.isBlank ·))

/-- The list with one more variable, unless its name is known or its type is a keyword. -/
def addLocal (locals : List ScopeLocal) (origin : LocalOrigin) (found : String × String) : List ScopeLocal :=
  let (type, name) := found
  if Hlsl.keywords.contains type || locals.any (·.name == name) then locals
  else locals ++ [⟨name, squeeze type, origin⟩]

/-- The declarations in a text. -/
def declarations (text : String) : List (String × String) :=
  (declaration.findAll (.ofText text 0)).map (·.value)

/-- The parameters in a list. -/
def parameters (list : String) : List (String × String) :=
  (Text.splitWhere (· == ',') list.toList).filterMap fun piece =>
    parameter.atStart ⟨none, 0, Text.trim piece⟩

/-- The variables that the header of a block declares. -/
def Header.locals (h : Header) (locals : List ScopeLocal) : List ScopeLocal :=
  if h.head == "for" then (declarations h.list).foldl (addLocal · .block) locals
  else if controlHeads.contains h.head then locals
  else (parameters h.list).foldl (addLocal · .parameter) locals

/-- The variables visible at the end of a text. -/
def localsAtEnd (text : String) : List ScopeLocal :=
  let reversed := text.toList.reverse
  let split := splitAtOpen? '\x7b' '\x7d' 0 [] reversed
  let body := (split.map (·.2)).getD text.toList
  let locals := (declarations (String.ofList (blankBlocks 0 body))).foldl (addLocal · .block) []
  match split.bind fun (before, _) => header? before with
  | some h => h.locals locals
  | none => locals

/-- The variables visible at `offset`: declarations of the block, then parameters. -/
def localsAt (text : String) (offset : Nat) : List ScopeLocal :=
  localsAtEnd (window text offset)

/-! ## Types of variables -/

/-- A gap, of whatever length lets `inner` follow; `fuel` bounds the length. -/
def gapThen {α : Type} (inner : Scanner α) : Nat → Scanner α
  | 0 => failure
  | fuel + 1 => do
    discard (satisfy Text.isBlank)
    gapThen inner fuel <|> inner

/-- A type in front of this name, up to what ends a declarator. -/
def declarationOf (name : String) : Scanner String := do
  require Cursor.atWordStart
  let type ← identifier
  gapThen (do
    literal name
    blanks
    discard (satisfy fun c => ['=', ';', ',', ')', ':', '['].contains c)) (← get).rest.length
  return type.text

/-- The type of a variable: that of the visible one, else that of the nearest declaration before the
cursor. -/
def typeOf? (text : String) (offset : Nat) (name : String) : Option String :=
  match (localsAt text offset).find? (·.name == name) with
  | some found => some found.type
  | none =>
    (((declarationOf name).findAll (.ofText (window text offset) 0)).map (·.value)).filter
      (!Hlsl.keywords.contains ·) |>.getLast?

end Scope

end ShaderAnalysis
