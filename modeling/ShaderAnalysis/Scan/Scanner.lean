import ShaderAnalysis.Scan.Cursor

/-!
# Scanners

A scanner recognises one construct at a cursor and moves behind it, or refuses. Runs are always as
long as possible and are never given back: the constructs of shader sources are such that what
follows a run cannot start with a character of the run.
-/

namespace ShaderAnalysis

/-- Recognises a construct at a cursor. -/
abbrev Scanner := StateT Cursor Option

namespace Scanner

/-- Where the scanner stands. -/
def offset : Scanner Nat := do
  return (← get).offset

/-- Goes on only if the place satisfies `p`. -/
def require (p : Cursor → Bool) : Scanner Unit := do
  guard (p (← get))

/-- The longest run of characters that satisfy `p`; there is at least one. -/
def run (p : Char → Bool) : Scanner Lexeme := do
  let (lexeme, after) := (← get).takeRun p
  guard !lexeme.text.isEmpty
  set after
  return lexeme

/-- The longest run of characters that satisfy `p`, perhaps empty. -/
def runAny (p : Char → Bool) : Scanner Lexeme := do
  let (lexeme, after) := (← get).takeRun p
  set after
  return lexeme

/-- A word. -/
def word : Scanner Lexeme :=
  run Text.isWordChar

/-- A word whose first character follows no word character. -/
def wordFromStart : Scanner Lexeme := do
  require Cursor.atWordStart
  word

/-- Blanks, if any. -/
def blanks : Scanner Unit :=
  discard (runAny Text.isBlank)

/-- At least one blank. -/
def gap : Scanner Unit :=
  discard (run Text.isBlank)

/-- Spaces and tabs, if any. -/
def spaces : Scanner Unit :=
  discard (runAny fun c => c == ' ' || c == '\t')

/-- At least one space or tab. -/
def spaceGap : Scanner Unit :=
  discard (run fun c => c == ' ' || c == '\t')

/-- One character that satisfies `p`. -/
def satisfy (p : Char → Bool) : Scanner Char := do
  let c ← get
  match c.rest with
  | [] => failure
  | x :: xs =>
    guard (p x)
    set (c.past [x] xs)
    return x

/-- The character `x`. -/
def char (x : Char) : Scanner Unit :=
  discard (satisfy (· == x))

/-- The characters in this order. -/
def chars (xs : List Char) : Scanner Unit := do
  let c ← get
  guard (xs.isPrefixOf c.rest)
  set (c.past xs (c.rest.drop xs.length))

/-- The text, character by character. -/
def literal (s : String) : Scanner Unit :=
  chars s.toList

/-- One character after the other, each of which satisfies the test in its place. -/
def each (tests : List (Char → Bool)) : Scanner Unit :=
  tests.forM fun p => discard (satisfy p)

/-- The ASCII letters of `s` in any case form. -/
def literalFolded (s : String) : Scanner Unit :=
  each (s.toList.map Text.foldsToLetter)

/-- What a scanner recognises, and the span that it moves over. -/
def spanOf {α : Type} (s : Scanner α) : Scanner (α × Span) := do
  let start ← offset
  let value ← s
  return (value, .between start (← offset))

end Scanner

end ShaderAnalysis
