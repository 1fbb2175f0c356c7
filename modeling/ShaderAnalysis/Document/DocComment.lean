import ShaderAnalysis.Document.Basic

/-!
# Documentation comments

The documentation of a declaration is the block comment or the line comments right above it. A line
that is neither ends it.
-/

namespace ShaderAnalysis.DocComment

/-- The text of a line; there is none in a line that does not exist. -/
def lineChars (d : Document) (line : Nat) : List Char :=
  ((d.lineText? line).getD "").toList

/-- The lines from `line` up to the one that opens a block comment, lowest first. -/
def blockLines (d : Document) (line : Nat) : List (List Char) :=
  let raw := lineChars d line
  if Text.hasInfix "/*".toList raw then [raw]
  else
    match line with
    | 0 => [raw]
    | above + 1 => raw :: blockLines d above

/-- A line of a block comment without the star in front of it. -/
def cleanLine (line : List Char) : List Char :=
  match Text.trim line with
  | '*' :: rest => Text.trimStart rest
  | trimmed => trimmed

/-- The text of a block comment without its marks and its blank lines. -/
def blockText (lines : List (List Char)) : List Char :=
  let joined := List.intercalate ['\n'] lines
  let bare := ["/**", "/*", "*/"].foldl (fun cs mark => Text.replaceAll mark.toList [] cs) joined
  List.intercalate ['\n'] (((Text.lines bare).map cleanLine).filter (!·.isEmpty))

/-- Whether a block comment ends at the end of the line. -/
def endsBlock (line : List Char) : Bool :=
  "*/".toList.isSuffixOf line

/-- The comments above `line`, nearest first. -/
def commentsAbove (d : Document) : Nat → List (List Char)
  | 0 => []
  | above + 1 =>
    match Text.trim (lineChars d above) with
    | '/' :: '/' :: comment => Text.trim comment :: commentsAbove d above
    | trimmed =>
      let text := if endsBlock trimmed then blockText (blockLines d above).reverse else []
      if text.isEmpty then [] else [text]

/-- The documentation above a line. -/
def above? (d : Document) (line : Nat) : Option String :=
  match commentsAbove d line with
  | [] => none
  | comments => some (String.ofList (List.intercalate ['\n'] comments.reverse))

end ShaderAnalysis.DocComment
