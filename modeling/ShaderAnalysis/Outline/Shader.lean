import ShaderAnalysis.Outline.Declaration

/-!
# Outlines of shader documents

A shader document is one `Shader` block. In it are `Properties`, `SubShader` blocks with `Pass`
blocks, and, at any of these levels, regions of code between a start word and an end word. The
keywords are case-insensitive; recorded blocks have their usual spelling.
-/

namespace ShaderAnalysis.Outline

open Scanner

/-! ## Recognising -/

/-- A text between double quotes, on one line; the lexeme includes the quotes. -/
def quotedText : Scanner Lexeme := do
  let c ← get
  char '"'
  let inner ← runAny fun c => c != '"' && c != '\n'
  char '"'
  return ⟨"\"" ++ inner.text ++ "\"", .between c.offset (← offset)⟩

/-- A keyword in any case, at the start of a word; the value is where it stands. -/
def keyword (name : String) : Scanner Span := do
  require Cursor.atWordStart
  let (_, span) ← spanOf (literalFolded name)
  return span

/-- The head of the shader: where its keyword stands, and its quoted name. -/
def shaderHeader : Scanner (Span × Lexeme) := do
  let span ← keyword "Shader"
  blanks
  let name ← quotedText
  blanks
  char '\x7b'
  return (span, name)

/-- The head of a block; the value is where its keyword stands. -/
def blockHeader (name : String) : Scanner Span := do
  let span ← keyword name
  blanks
  char '\x7b'
  return span

/-- The rest of a property behind its description, if it ends here: a closing parenthesis and, up to
the end of a line, a default value. -/
def propertyEnd : Scanner Unit := do
  char ')'
  blanks
  char '='
  blanks
  discard (runAny (· != '\n'))

/-- The characters, at least one, up to the first place on this line where the property can end. -/
def untilPropertyEnd (taken : List Char) : List Char → Scanner (List Char)
  | [] => failure
  | c :: cs =>
    (do guard !taken.isEmpty; propertyEnd; return taken.reverse)
    <|> (do guard (c != '\n'); char c; untilPropertyEnd (c :: taken) cs)

/-- The description of a property's kind. Blanks in front do not belong to it, unless it has
nothing else. -/
def propertyKind : Scanner String := do
  let gap ← runAny Text.isBlank
  (do let kind ← untilPropertyEnd [] (← get).rest; return Text.trimmed (String.ofList kind))
  <|> (do guard (gap.text.toList.getLast?.any (· != '\n')); propertyEnd; return "")

/-- A property. -/
structure PropertyDeclaration where
  name : Lexeme
  kind : String

/-- A name, a title and a kind in parentheses, and a default value. -/
def propertyDeclaration : Scanner PropertyDeclaration := do
  let name ← wordFromStart
  blanks
  char '('
  blanks
  discard quotedText
  blanks
  char ','
  return ⟨name, ← propertyKind⟩

/-- The words that start a region of code. -/
def regionWords : List String :=
  ["CGPROGRAM", "CGINCLUDE", "HLSLPROGRAM", "HLSLINCLUDE"]

/-- One of these words in any case, as a whole word. -/
def wholeKeyword (names : List String) : Scanner Lexeme := do
  let w ← wordFromStart
  let isCaseOf := fun name : String =>
    w.text.length == name.length && (name.toList.zip w.text.toList).all fun (n, c) => Text.foldsToLetter n c
  guard (names.any isCaseOf)
  return w

/-- A declaration in a region of code. -/
structure RegionVariable where
  type : Lexeme
  name : Lexeme
  size : Option Lexeme

/-- A size in digits, which may be missing, right behind a name. -/
def digitSize : Scanner Lexeme := do
  char '['
  let size ← runAny Text.isDecimalDigit
  char ']'
  return size

/-- A type and a name, up to a semicolon or the start of an initial value. -/
def regionVariable : Scanner RegionVariable := do
  let type ← wordFromStart
  gap
  let name ← word
  let size ← optional digitSize
  blanks
  discard (satisfy fun c => c == '=' || c == ';')
  return ⟨type, name, size⟩

/-! ## Regions -/

/-- Whether a region of this name is shared by the other regions. -/
def isIncludeRegion (name : String) : Bool :=
  name == "CGINCLUDE" || name == "HLSLINCLUDE"

end Outline

/-- Whether the symbol is a region of code. -/
def Symbol.isCodeRegion (s : Symbol) : Bool :=
  s.kind == .package && Outline.regionWords.contains s.name

/-- Whether the symbol is a region of code that other regions share. -/
def Symbol.isSharedRegion (s : Symbol) : Bool :=
  s.kind == .package && Outline.isIncludeRegion s.name

namespace Outline

open Scanner

/-- Whether one of these symbols declares a type of this name. -/
def declaresType (t : Outline) (level : List Nat) (name : String) : Bool :=
  level.any fun id => (t.get? id).any fun s => s.kind.isType && s.name == name

/-- Whether `name` is a type declared at this level or in a shared region of it. -/
def levelDeclaresType (t : Outline) (level : List Nat) (name : String) : Bool :=
  t.declaresType level name ||
    level.any fun id => (t.get? id).any Symbol.isSharedRegion && t.declaresType (t.children id) name

/-- Whether `name` is a type at `offset`: a base type, or one that is declared around it. -/
def isTypeAt (t : Outline) (offset : Nat) (name : String) : Bool :=
  Hlsl.isRegionBaseType name ||
    ((t.stackAt offset).map t.children ++ [t.roots]).any fun level => t.levelDeclaresType level name

/-! ## Passes -/

/-- A recorded block or region, and the span of its contents. -/
structure Block where
  id : Nat
  body : Span

/-- Records the shader itself. -/
def addShader (t : Outline) (source : Source) : Option (Outline × Block) := do
  let found ← shaderHeader.findFirst (.ofText source.text 0)
  let (keyword, name) := found.value
  let (region, body) ← source.brackets.braceAt? (found.span.stop - 1)
  let (t, id) := t.push none
    ⟨"Shader", name.text, .file, .between found.span.start region.stop, keyword⟩
  return (t, ⟨id, body⟩)

/-- Records the blocks of this name in the contents of another block, at most `limit` of them. What
stands in a block that is recorded already is passed over. -/
def addBlocks (t : Outline) (source : Source) (parent : Block) (name : String) (limit : Option Nat) :
    Outline × List Block :=
  (source.findAll parent.body (blockHeader name)).foldl (fun (t, blocks) found =>
    if limit.any (· ≤ blocks.length) then (t, blocks)
    else
      match source.brackets.braceAt? (found.span.stop - 1) with
      | none => (t, blocks)
      | some (region, body) =>
        if t.childTouches parent.id found.span.start then (t, blocks)
        else
          let (t, id) := t.push (some parent.id)
            ⟨name, "", .package, .between found.span.start region.stop, found.value⟩
          (t, blocks ++ [⟨id, body⟩])) (t, [])

/-- Records the properties of a shader: the first `Properties` block and what it declares. -/
def addProperties (t : Outline) (source : Source) (shader : Block) : Outline :=
  let (t, blocks) := t.addBlocks source shader "Properties" (some 1)
  match blocks with
  | [] => t
  | block :: _ =>
    (source.findAll block.body propertyDeclaration).foldl (fun t found =>
      let d := found.value
      t.add (some block.id) ⟨d.name.text, d.kind, .property, found.span, d.name.span⟩) t

/-- The word that ends a region started by this word. -/
def endWord (start : String) : String :=
  if "CG".toList.isPrefixOf start.toList then "ENDCG" else "ENDHLSL"

/-- Records the regions of code in the contents of a block. A region without an end, or one in a
recorded block, is passed over. -/
def addRegions (t : Outline) (source : Source) (level : Block) : Outline × List Block :=
  (source.findAll level.body (wholeKeyword regionWords)).foldl (fun (t, regions) found =>
    if t.childTouches level.id found.span.start then (t, regions)
    else
      let name := Text.asciiUpper found.value.text
      let ends := source.findAll level.body (wholeKeyword [endWord name])
      match ends.find? (found.span.stop ≤ ·.span.start) with
      | none => (t, regions)
      | some stop =>
        let (t, id) := t.push (some level.id)
          ⟨name, "", .package, .between found.span.start stop.span.stop, found.value.span⟩
        (t, regions ++ [⟨id, .between found.span.stop stop.span.start⟩])) (t, [])

/-- Records the structs of a region, without their members. -/
def addRegionStructs (t : Outline) (source : Source) (region : Block) : Outline × List Block :=
  (source.findAll region.body structHeader).foldl (fun (t, structs) found =>
    match source.brackets.braceAt? (found.span.stop - 1) with
    | none => (t, structs)
    | some (braces, body) =>
      let (t, id) := t.push (some region.id)
        ⟨found.value.text, "", .struct, .between found.span.start braces.stop, found.value.span⟩
      (t, structs ++ [⟨id, body⟩])) (t, [])

/-- Records the functions of a region with their parameters. -/
def addMethods (t : Outline) (source : Source) (region : Block) : Outline × List Block :=
  (source.findAll region.body functionHeader).foldl (fun (t, methods) found =>
    let h := found.value
    if h.isStatement || t.childTouches region.id found.span.start then (t, methods)
    else
      match source.brackets.braceAt? (found.span.stop - 1) with
      | none => (t, methods)
      | some (braces, body) =>
        let (t, id) := t.push (some region.id)
          ⟨h.name.text, h.returns.text, .method, .between found.span.start braces.stop, h.name.span⟩
        (t.addParameters source id h.params, methods ++ [⟨id, body⟩])) (t, [])

/-- Records the variables of a region or function whose types are known where they stand. -/
def addRegionVariables (t : Outline) (source : Source) (block : Block) : Outline :=
  (source.findAll block.body regionVariable).foldl (fun t found =>
    let d := found.value
    let start := d.type.span.start
    if t.childTouches block.id start || Hlsl.isDeclarationGuard d.type.text || !t.isTypeAt start d.type.text then t
    else
      let size := if d.size.all (·.text.isEmpty) then "" else sizeText d.size
      let stop := match d.size with
        | some size => size.span.stop + 1
        | none => d.name.span.stop
      t.add (some block.id) ⟨d.name.text, d.type.text ++ size, .variable, .between start stop, d.name.span⟩) t

/-- Records what a region declares. -/
def addRegionContents (t : Outline) (source : Source) (region : Block) : Outline :=
  let (t, structs) := t.addRegionStructs source region
  let (t, methods) := t.addMethods source region
  let t := structs.foldl (fun t block => t.addMembers source block.id block.body) t
  let t := methods.foldl (fun t method => t.addRegionVariables source method) t
  t.addRegionVariables source region

/-- Collects what a pass returns for each of several blocks. -/
def forBlocks (pass : Outline → Block → Outline × List Block) (t : Outline) (blocks : List Block) :
    Outline × List Block :=
  blocks.foldl (fun (t, found) block =>
    let (t, more) := pass t block
    (t, found ++ more)) (t, [])

/-- Shared regions come before all others; otherwise regions keep the order of the text. -/
def regionOrder (t : Outline) (a b : Block) : Bool :=
  let isShared := fun block : Block => (t.get? block.id).any fun s => isIncludeRegion s.name
  if isShared a == isShared b then a.body.start ≤ b.body.start else isShared a

/-- The outline of a shader document; without a shader there are no symbols. -/
def addShaderDocument (t : Outline) (source : Source) : Outline :=
  match t.addShader source with
  | none => t
  | some (t, shader) =>
    let t := t.addProperties source shader
    let (t, subshaders) := t.addBlocks source shader "SubShader" none
    let (t, passes) := forBlocks (fun t block => t.addBlocks source block "Pass" none) t subshaders
    let (t, regions) := forBlocks (fun t block => t.addRegions source block) t (passes ++ subshaders ++ [shader])
    -- the types of shared regions are known before the variables of other regions are read
    (regions.mergeSort t.regionOrder).foldl (fun t region => t.addRegionContents source region) t

end ShaderAnalysis.Outline
