import ShaderAnalysis.Outline.Declaration

/-!
# Outlines of plain code

The passes that recover the outline of a document in the shading language. Each pass reads the whole
text and adds to what the passes before it have recorded; a declaration that two passes recognise is
recorded once.
-/

namespace ShaderAnalysis.Outline

open Scanner

/-! ## Recognising -/

/-- A constant buffer up to its opening brace: its keyword and its name. -/
def bufferHeader : Scanner (Lexeme × Lexeme) := do
  let keyword ← wordFromStart
  guard (keyword.text == "cbuffer" || keyword.text == "tbuffer")
  gap
  let name ← word
  discard (optional registerBinding)
  blanks
  char '\x7b'
  return (keyword, name)

/-- The offset of a buffer member, behind a colon. -/
def packOffset : Scanner Unit := do
  char ':'
  blanks
  literal "packoffset"
  blanks
  discard argumentText

/-- A member of a constant buffer. -/
def bufferMember : Scanner Declarator := do
  let type ← wordFromStart
  gap
  let name ← word
  let size ← optional arraySize
  blanks
  discard (optional packOffset)
  blanks
  char ';'
  return ⟨type, name, size.toList, none⟩

/-- A compute kernel up to its parameters. -/
structure KernelHeader where
  x : Lexeme
  y : Lexeme
  z : Lexeme
  name : Lexeme

/-- A decimal number, with blanks around it. -/
def paddedNumber : Scanner Lexeme := do
  blanks
  let n ← run Text.isDecimalDigit
  blanks
  return n

/-- Thread counts in square brackets, then a function without a result. -/
def kernelHeader : Scanner KernelHeader := do
  char '['
  blanks
  literal "numthreads"
  blanks
  char '('
  let x ← paddedNumber
  char ','
  let y ← paddedNumber
  char ','
  let z ← paddedNumber
  char ')'
  blanks
  char ']'
  blanks
  literal "void"
  gap
  let name ← word
  blanks
  char '('
  return ⟨x, y, z, name⟩

/-- A directive at the start of a line, up to its name. -/
def directive (name : String) : Scanner Unit := do
  require Cursor.atLineStart
  spaces
  char '#'
  spaces
  literal name

/-- The parameters of a macro, on one line. -/
def macroParameters : Scanner Lexeme := do
  char '('
  let inner ← runAny fun c => c != ')' && c != '\n'
  char ')'
  return inner

/-- A macro definition. -/
structure MacroDefinition where
  name : Lexeme
  params : Option Lexeme
  value : Lexeme

/-- A macro definition, up to the end of its line. -/
def macroDefinition : Scanner MacroDefinition := do
  directive "define"
  spaceGap
  let name ← word
  let params ← optional macroParameters
  spaces
  let value ← runAny (· != '\n')
  return ⟨name, params, value⟩

/-- An included path between its delimiters. -/
def inclusion : Scanner Lexeme := do
  directive "include"
  spaces
  discard (satisfy fun c => c == '"' || c == '<')
  let path ← run fun c => c != '"' && c != '>' && c != '\n'
  discard (satisfy fun c => c == '"' || c == '>')
  return path

/-- Words that may stand before the type of a global variable. -/
def globalModifiers : List String :=
  ["uniform", "static", "extern", "const", "volatile", "shared", "precise"]

/-- A global variable. -/
structure GlobalDeclaration where
  modifiers : List Lexeme
  type : Lexeme
  name : Lexeme
  size : Option Lexeme

/-- Modifiers, a type and a name: the last two words of a row, all others of which are modifiers. -/
def globalWords? (row : List Lexeme) : Option (List Lexeme × Lexeme × Lexeme) :=
  match row with
  | [type, name] => some ([], type, name)
  | modifier :: rest =>
    if globalModifiers.contains modifier.text then
      (globalWords? rest).map fun (modifiers, type, name) => (modifier :: modifiers, type, name)
    else
      none
  | [] => none

/-- A size in square brackets, on one line. -/
def lineArraySize : Scanner Lexeme := do
  char '['
  spaces
  let size ← word
  spaces
  char ']'
  return size

/-- The place that a variable is bound to, on one line. -/
def lineRegisterBinding : Scanner Unit := do
  char ':'
  spaces
  literal "register"
  spaces
  discard macroParameters

/-- A global variable on a line of its own. -/
def globalDeclaration : Scanner GlobalDeclaration := do
  require Cursor.atLineStart
  spaces
  let row ← wordRow spaceGap
  match globalWords? row with
  | none => failure
  | some (modifiers, type, name) =>
    spaces
    let size ← optional lineArraySize
    spaces
    discard (optional lineRegisterBinding)
    spaces
    char ';'
    return ⟨modifiers, type, name, size⟩

/-- The element type of a resource, in angle brackets. -/
def elementType : Scanner Lexeme := do
  blanks
  char '<'
  blanks
  let element ← word
  blanks
  char '>'
  return element

/-- A declared resource. -/
structure ResourceDeclaration where
  type : Lexeme
  element : Option Lexeme
  name : Lexeme

/-- The rest of a resource declaration, from the gap before its name. -/
def resourceName : Scanner Lexeme := do
  gap
  let name ← word
  discard (optional registerBinding)
  blanks
  char ';'
  return name

/-- A resource of one of these types, perhaps with an element type. -/
def resourceDeclaration (types : List String) : Scanner ResourceDeclaration := do
  let type ← wordFromStart
  guard (types.contains type.text)
  let element ← optional elementType
  return ⟨type, element, ← resourceName⟩

/-- Types of textures and samplers. -/
def readableTextures : List String :=
  ["Texture1D", "Texture2D", "Texture3D", "TextureCube", "Texture1DArray", "Texture2DArray",
    "TextureCubeArray", "Texture2DMS", "SamplerState", "SamplerComparisonState"]

/-- Types of textures that are also written. -/
def writableTextures : List String :=
  ["RWTexture1D", "RWTexture2D", "RWTexture3D", "RWTexture1DArray", "RWTexture2DArray"]

/-- Types of buffers. -/
def typedBuffers : List String :=
  ["StructuredBuffer", "RWStructuredBuffer", "Buffer", "RWBuffer", "ByteAddressBuffer",
    "RWByteAddressBuffer", "AppendStructuredBuffer", "ConsumeStructuredBuffer"]

/-- A variable that a group of threads shares. -/
def groupVariable : Scanner Declarator := do
  let keyword ← wordFromStart
  guard (keyword.text == "groupshared")
  gap
  let type ← word
  gap
  let name ← word
  let first ← optional arraySize
  let second ← optional arraySize
  blanks
  char ';'
  return ⟨type, name, first.toList ++ second.toList, none⟩

/-! ## Passes -/

/-- Records structs and their members. -/
def addStructs (t : Outline) (source : Source) (span : Span) : Outline :=
  (source.findAll span structHeader).foldl (fun t found =>
    let name := found.value
    match source.brackets.braceAt? (found.span.stop - 1) with
    | none => t
    | some (region, body) =>
      if t.records none name.text .struct name.span then t
      else
        let (t, id) := t.push none
          ⟨name.text, "struct", .struct, .between found.span.start region.stop, name.span⟩
        t.addMembers source id body) t

/-- Records constant buffers and their members. -/
def addBuffers (t : Outline) (source : Source) (span : Span) : Outline :=
  (source.findAll span bufferHeader).foldl (fun t found =>
    let (keyword, name) := found.value
    match source.brackets.braceAt? (found.span.stop - 1) with
    | none => t
    | some (region, body) =>
      let (t, id) := t.push none
        ⟨name.text, keyword.text, .struct, .between found.span.start region.stop, name.span⟩
      (source.findAll body bufferMember).foldl (fun t member =>
        let d := member.value
        if Hlsl.isDeclarationGuard d.type.text then t
        else
          t.add (some id) ⟨d.name.text, d.type.text ++ sizeText d.sizes.head?, .field,
            .between d.type.span.start member.span.stop, d.name.span⟩) t) t

/-- Records functions, their parameters and their locals. -/
def addFunctions (t : Outline) (source : Source) (span : Span) (declared : List String) : Outline :=
  (source.findAll span functionHeader).foldl (fun t found =>
    let h := found.value
    if h.isStatement || !(h.returns.text == "void" || Hlsl.isDeclarationType h.returns.text declared) then t
    else
      match source.brackets.braceAt? (found.span.stop - 1) with
      | none => t
      | some (region, body) =>
        if t.records none h.name.text .function h.name.span then t
        else
          let detail := h.returns.text ++
            (match h.semantic with | some s => " : " ++ s.text | none => "")
          let (t, id) := t.push none
            ⟨h.name.text, detail, .function, .between h.returns.span.start region.stop, h.name.span⟩
          (t.addParameters source id h.params).addLocals source id body declared) t

/-- Marks kernels: the first function of the name gets its thread counts as detail, and a kernel
without a function is recorded itself. -/
def addKernels (t : Outline) (source : Source) (span : Span) : Outline :=
  (source.findAll span kernelHeader).foldl (fun t found =>
    let h := found.value
    let detail := "kernel [" ++ h.x.text ++ ", " ++ h.y.text ++ ", " ++ h.z.text ++ "]"
    let isIt := fun id => (t.get? id).any fun s => s.kind == .function && s.name == h.name.text
    match t.roots.find? isIt with
    | some id => t.setDetail id detail
    | none => t.add none ⟨h.name.text, detail, .function, found.span, h.name.span⟩) t

/-- The longest macro value that is shown in full, in characters. -/
def macroValuePreview : Nat := 30

/-- The value of a macro as it is shown. -/
def preview (value : List Char) : String :=
  if value.length ≤ macroValuePreview then String.ofList value
  else String.ofList (value.take macroValuePreview) ++ "..."

/-- The parameters and the value of a macro as they are shown. -/
def MacroDefinition.detail (d : MacroDefinition) : String :=
  let params := match d.params with
    | some p => "(" ++ Text.trimmed p.text ++ ")"
    | none => ""
  let value := Text.trim d.value.text.toList
  Text.trimmed (params ++ (if value.isEmpty then "" else " = " ++ preview value))

/-- Records macros. -/
def addMacros (t : Outline) (source : Source) (span : Span) : Outline :=
  (source.findAll span macroDefinition).foldl (fun t found =>
    let d := found.value
    t.add none ⟨d.name.text, d.detail, .constant, found.span, d.name.span⟩) t

/-- Records included files. -/
def addInclusions (t : Outline) (source : Source) (span : Span) : Outline :=
  (source.findAll span inclusion).foldl (fun t found =>
    t.add none ⟨found.value.text, "#include", .module, found.span, found.value.span⟩) t

/-- Records a variable at the top of the document, unless it is recorded already. -/
def addVariable (t : Outline) (name : Lexeme) (detail : String) (span : Span) : Outline :=
  if t.records none name.text .variable name.span then t
  else t.add none ⟨name.text, detail, .variable, span, name.span⟩

/-- Records global variables of known types. -/
def addGlobals (t : Outline) (source : Source) (span : Span) (declared : List String) : Outline :=
  (source.findAll span globalDeclaration).foldl (fun t found =>
    let d := found.value
    let type := d.type.text
    if ["struct", "cbuffer", "tbuffer", "typedef"].contains type || !Hlsl.isDeclarationType type declared
        || !source.brackets.isTopLevel d.type.span.start then t
    else
      let modifiers := d.modifiers.map (·.text ++ " ")
      t.addVariable d.name (String.join modifiers ++ type ++ sizeText d.size)
        (.between d.type.span.start found.span.stop)) t

/-- Records textures and samplers. -/
def addTextures (t : Outline) (source : Source) (span : Span) : Outline :=
  (source.findAll span (resourceDeclaration readableTextures)).foldl (fun t found =>
    if source.brackets.isTopLevel found.span.start then
      t.addVariable found.value.name found.value.type.text found.span
    else t) t

/-- A resource type with its element type. -/
def ResourceDeclaration.typeText (d : ResourceDeclaration) : String :=
  match d.element with
  | some element => d.type.text ++ "<" ++ element.text ++ ">"
  | none => d.type.text

/-- Records buffers of elements. -/
def addTypedBuffers (t : Outline) (source : Source) (span : Span) : Outline :=
  (source.findAll span (resourceDeclaration typedBuffers)).foldl (fun t found =>
    if source.brackets.isTopLevel found.span.start then
      t.addVariable found.value.name found.value.typeText found.span
    else t) t

/-- Records variables that a group of threads shares. -/
def addGroupVariables (t : Outline) (source : Source) (span : Span) : Outline :=
  (source.findAll span groupVariable).foldl (fun t found =>
    let d := found.value
    t.addVariable d.name ("groupshared " ++ d.type.text ++ String.join (d.sizes.map (sizeText ∘ some)))
      found.span) t

/-- Records textures that are also written; they name their element type. -/
def addWritableTextures (t : Outline) (source : Source) (span : Span) : Outline :=
  (source.findAll span writable).foldl (fun t found =>
    if source.brackets.isTopLevel found.span.start then
      t.addVariable found.value.name found.value.typeText found.span
    else t) t
where
  /-- A writable texture with its element type. -/
  writable : Scanner ResourceDeclaration := do
    let d ← resourceDeclaration writableTextures
    guard d.element.isSome
    return d

/-- The outline of plain code in a span. -/
def addCode (t : Outline) (source : Source) (span : Span) : Outline :=
  let declared := source.declaredTypes span
  let t := t.addStructs source span
  let t := t.addBuffers source span
  let t := t.addFunctions source span declared
  let t := t.addKernels source span
  let t := t.addMacros source span
  let t := t.addInclusions source span
  let t := t.addGlobals source span declared
  let t := t.addTextures source span
  let t := t.addTypedBuffers source span
  let t := t.addGroupVariables source span
  t.addWritableTextures source span

end ShaderAnalysis.Outline
