import ShaderAnalysis.Document.Position
import ShaderAnalysis.Files.Uri
import ShaderAnalysis.Text.Slice

/-!
# Documents

A document is a text with a name and a version, together with a table of the offsets at which its
lines start. Lines are separated by line feeds. The table serves to translate between byte offsets
and the positions that clients use.
-/

namespace ShaderAnalysis

/-- The offsets after the line feeds among these bytes, the first of which is at `offset`. -/
def lineStartsAfter (offset : Nat) : List UInt8 → List Nat
  | [] => []
  | b :: bs => if b = 10 then (offset + 1) :: lineStartsAfter (offset + 1) bs else lineStartsAfter (offset + 1) bs

/-- The offsets at which the lines of a text start. -/
def lineStartsOf (text : String) : List Nat :=
  0 :: lineStartsAfter 0 (Text.bytes text)

/-- A document, open in the client or read from the disk. -/
structure Document where
  uri : Uri
  text : String
  version : Int
  language : Option Language
  lineStarts : List Nat
  deriving DecidableEq, Repr, Inhabited

namespace Document

/-- A document whose language is that of its file. -/
def new (uri : Uri) (text : String) (version : Int) : Document :=
  ⟨uri, text, version, uri.language? none, lineStartsOf text⟩

/-- The document, in the language that the client names if it is a known one. -/
def withLanguageId (d : Document) (id : String) : Document :=
  match Language.ofId? id with
  | some language => { d with language }
  | none => d

/-- The name by which the document is shown. -/
def fileName (d : Document) : String :=
  d.uri.fileName

/-- The number of bytes. -/
def size (d : Document) : Nat :=
  d.text.utf8ByteSize

/-! ## Lines -/

/-- The offset at which a line starts. -/
def lineStart? (d : Document) (line : Nat) : Option Nat :=
  d.lineStarts[line]?

/-- The bytes of a line, with its line feed. -/
def lineSpan? (d : Document) (line : Nat) : Option Span :=
  d.lineStarts[line]?.map fun start => .between start (d.lineStarts[line + 1]?.getD d.size)

/-- The characters of a line, with its line feed. -/
def lineChars? (d : Document) (line : Nat) : Option (List Char) :=
  (d.lineSpan? line).map fun span => (Text.slice d.text span).toList

/-- The text of a line, without the line feed and carriage returns before it. -/
def lineText? (d : Document) (line : Nat) : Option String :=
  (d.lineChars? line).map fun cs =>
    String.ofList (Text.trimEndWhile (· == '\r') (Text.trimEndWhile (· == '\n') cs))

/-- The line that `offset` is in. -/
def lineOf (d : Document) (offset : Nat) : Nat :=
  (d.lineStarts.takeWhile (· ≤ min offset d.size)).length - 1

/-! ## Positions -/

/-- The number of bytes of the characters that start before code unit `units`. -/
def bytesBefore (units : Nat) : List Char → Nat
  | [] => 0
  | c :: cs => if units = 0 then 0 else c.utf8Size + bytesBefore (units - Text.units16 c) cs

/-- The offset of a position. -/
def offsetOf? (d : Document) (p : Position) : Option Nat := do
  let start ← d.lineStart? p.line
  let cs ← d.lineChars? p.line
  return start + bytesBefore p.character cs

/-- The position of an offset. An offset inside a character has the position of its line. -/
def positionOf (d : Document) (offset : Nat) : Position :=
  let offset := min offset d.size
  let line := d.lineOf offset
  let start := (d.lineStart? line).getD 0
  ⟨line, Text.length16 (Text.slice d.text (.between start offset)).toList⟩

/-- The positions of the ends of a span. -/
def rangeOf (d : Document) (span : Span) : PositionRange :=
  ⟨d.positionOf span.start, d.positionOf span.stop⟩

/-! ## Words -/

/-- Whether a byte is an ASCII letter, digit or underscore. -/
def isWordByte (b : UInt8) : Bool :=
  b < 128 && Text.isIdentChar (Char.ofUInt8 b)

/-- The word at a cursor, which may also stand right behind it. -/
def wordAt? (d : Document) (offset : Nat) : Option Span :=
  let offset := min offset d.size
  let bs := Text.bytes d.text
  let start := offset - ((bs.take offset).reverse.takeWhile isWordByte).length
  let stop := offset + ((bs.drop offset).takeWhile isWordByte).length
  if start < stop then some (.between start stop) else none

end Document

end ShaderAnalysis
