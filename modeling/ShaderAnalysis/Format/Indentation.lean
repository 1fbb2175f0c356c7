import ShaderAnalysis.Format.Line

/-!
# Indentation

A line is indented by the braces and conditional directives that are open around it. A statement
under a control head without braces, and a line that continues a conditional expression, go one
level deeper.
-/

namespace ShaderAnalysis.Format

/-- Whether the characters start with this text. -/
def startsWith (cs : List Char) (start : String) : Bool :=
  start.toList.isPrefixOf cs

/-- Whether the last character is `c`. -/
def endsIn (cs : List Char) (c : Char) : Bool :=
  cs.getLast? == some c

/-- Whether the content starts with a word of control flow. -/
def isControlHead (content : List Char) : Bool :=
  ["if", "else", "for", "while"].any fun word =>
    startsWith content word && (content.drop word.length).head?.all (!Text.isWordChar ·)

/-- Whether the statement after this content is its body without braces. -/
def hasUnbracedBody (content : List Char) : Bool :=
  isControlHead content && !endsIn content ';' && !endsIn content '\x7d'

/-- Whether the content opens a block. -/
def opensBlock (content : List Char) : Bool :=
  content.head? == some '\x7b'

/-- Whether the content closes a block. -/
def closesBlock (content : List Char) : Bool :=
  content.head? == some '\x7d'

/-- Whether the content opens a block and closes it again. -/
def isInlineBlock (content : List Char) : Bool :=
  opensBlock content && endsIn content '\x7d'

/-- Whether what follows the content is one level deeper. -/
def indents (content : List Char) : Bool :=
  (opensBlock content && !isInlineBlock content) || ["#if", "#elif", "#else"].any (startsWith content)

/-- Whether the content itself is one level less deep than what stands before it. -/
def outdents (content : List Char) : Bool :=
  closesBlock content || ["#elif", "#else", "#endif"].any (startsWith content)

/-- What the lines so far say about the next one. -/
structure Nesting where
  level : Nat
  previous : List Char
  deriving Repr

/-- The level after an outdent before this content. -/
def Nesting.levelAt (n : Nesting) (content : List Char) : Nat :=
  if outdents content then n.level - 1 else n.level

/-- The level of a line with this content. -/
def Nesting.indentOf (n : Nesting) (content : List Char) : Nat :=
  let level := n.levelAt content
  if opensBlock content then level
  else
    level + (if hasUnbracedBody n.previous then 1 else 0) +
      (if content.head? == some '?' || content.head? == some ':' then 1 else 0)

/-- The state after a line with this content. -/
def Nesting.after (n : Nesting) (content : List Char) : Nesting :=
  ⟨n.levelAt content + (if indents content then 1 else 0), if content.isEmpty then n.previous else content⟩

/-- As many spaces. -/
def spaces (n : Nat) : List Char :=
  List.replicate n ' '

/-- The text of a line that is `indent` spaces deep. A comment behind code starts at a tab stop. -/
def layOut (tabSize indent : Nat) (line : Line) : List Char :=
  if line.content.isEmpty && line.comment.isEmpty then []
  else
    let width := indent + line.content.length
    let gap := if line.content.isEmpty || line.comment.isEmpty then [] else spaces (tabSize - width % tabSize)
    spaces indent ++ line.content ++ gap ++ Text.trimEnd line.comment

/-- The texts of lines in the state `n`. -/
def indentFrom (tabSize : Nat) (n : Nesting) : List Line → List (List Char)
  | [] => []
  | line :: rest =>
    layOut tabSize (n.indentOf line.content * tabSize) line ::
      indentFrom tabSize (n.after line.content) rest

/-- The texts of all lines. -/
def indentLines (tabSize : Nat) (lines : List Line) : List (List Char) :=
  indentFrom tabSize ⟨0, []⟩ lines

end ShaderAnalysis.Format
