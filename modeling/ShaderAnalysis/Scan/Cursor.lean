import ShaderAnalysis.Text.Slice
import ShaderAnalysis.Text.Property

/-!
# Cursors

A cursor is a place in a text: the characters that are left, the byte offset at which they start,
and the character right before them, which decides whether a word or a line starts here.
-/

namespace ShaderAnalysis

/-- A place in a text. -/
structure Cursor where
  before : Option Char
  offset : Nat
  rest : List Char
  deriving Repr

/-- A piece of text together with where it stands. -/
structure Lexeme where
  text : String
  span : Span
  deriving DecidableEq, Repr

namespace Cursor

/-- The start of a text that begins at byte `offset` of a larger one. -/
def ofText (text : String) (offset : Nat) : Cursor :=
  ⟨none, offset, text.toList⟩

/-- The start of a part of a text; what stands before the part is not seen from it. -/
def ofSpan (text : String) (span : Span) : Cursor :=
  ofText (Text.slice text span) span.start

/-- The place behind the characters `skipped`, with `rest` to follow. -/
def past (c : Cursor) (skipped rest : List Char) : Cursor :=
  ⟨skipped.getLast?.or c.before, c.offset + Text.length8 skipped, rest⟩

/-- The longest run of characters that satisfy `p`, and the place behind it. -/
def takeRun (p : Char → Bool) (c : Cursor) : Lexeme × Cursor :=
  let run := c.rest.takeWhile p
  let after := c.past run (c.rest.dropWhile p)
  (⟨String.ofList run, .between c.offset after.offset⟩, after)

/-- Whether a line starts here. -/
def atLineStart (c : Cursor) : Bool :=
  c.before == none || c.before == some '\n'

/-- Whether the character before is not part of a word. -/
def atWordStart (c : Cursor) : Bool :=
  c.before.all (!Text.isWordChar ·)

/-- Whether the character that follows is not part of a word. -/
def atWordEnd (c : Cursor) : Bool :=
  c.rest.head?.all (!Text.isWordChar ·)

/-- Whether a line ends here. -/
def atLineEnd (c : Cursor) : Bool :=
  c.rest.head?.all (· == '\n')

end Cursor

end ShaderAnalysis
