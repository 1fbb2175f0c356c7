import ShaderAnalysis.Format.Line
import ShaderAnalysis.Format.Token

/-!
# Spacing

Between two tokens stands a space or nothing. Binary operators get a space on either side, unary
ones none behind them. Around `<` and `>`, which also enclose type arguments, blanks stay as they
are written.
-/

namespace ShaderAnalysis.Format

/-- Operators with a space on either side. -/
def spacedOperators : List String :=
  ["=", "+=", "-=", "*=", "/=", "%=", "&=", "|=", "^=", "<<=", ">>=", "==", "!=", "<=", ">=", "&&", "||", "?", ":"]

/-- Operators that are binary or unary. -/
def arithmeticOperators : List String :=
  ["+", "-", "*", "/", "%", "&", "|", "^"]

/-- Operators whose spacing is kept. -/
def keptOperators : List String :=
  ["<", ">", "<<", ">>"]

/-- Words that are followed by a space before a parenthesis. -/
def controlWords : List String :=
  ["if", "for", "while", "switch"]

/-- Whether `t` is a unary operator behind `prev` and before a token that is `nextSpaced` or not. A
sign with a blank before it but not behind it is unary. -/
def isUnary (prev : Option Token) (t : Token) (nextSpaced : Bool) : Bool :=
  let sign := t.isAny ["+", "-"]
  let binary := prev.any fun p => p.isOperand && !(sign && t.spaced && !nextSpaced)
  t.isAny arithmeticOperators && !binary

/-- Whether a space stands between `prev`, which is a unary operator or not, and `t`. -/
def isSpaced (prev : Token) (prevUnary : Bool) (t : Token) : Bool :=
  if t.isAny [",", ";", ")", "]", ".", "::"] then false
  else if t.isAny ["++", "--"] && prev.isOperand then false
  else if prev.isAny ["(", "[", ".", "!", "~", "#", "::"] then false
  else if prevUnary || prev.isAny ["++", "--"] then !(t.isOperand || t.is "(")
  else if t.isAny keptOperators || prev.isAny keptOperators then t.spaced
  else if t.isAny spacedOperators || prev.isAny spacedOperators || t.isAny arithmeticOperators
    || prev.isAny arithmeticOperators then true
  else if prev.isAny [",", ";"] then true
  else if t.is "(" then
    (prev.kind == .word && controlWords.contains (String.ofList prev.text)) || t.spaced
  else if t.is "\x7b" || (prev.kind == .word && t.kind == .word) then true
  else t.spaced

/-- The text of the tokens behind `prev`, which is a unary operator or not. -/
def respaceFrom (prev : Option (Token × Bool)) : List Token → List Char
  | [] => []
  | t :: rest =>
    let unary := isUnary (prev.map (·.1)) t (rest.head?.any (·.spaced))
    let gap := prev.any fun (p, prevUnary) => isSpaced p prevUnary t
    (if gap then [' '] else []) ++ t.text ++ respaceFrom (some (t, unary)) rest

/-- A line of code with its tokens spaced. -/
def respace (code : List Char) : List Char :=
  respaceFrom none (tokens code)

/-- Whether a directive includes a file. -/
def isInclusion (code : List Char) : Bool :=
  match code with
  | '#' :: rest => "include".toList.isPrefixOf (Text.trimStart rest)
  | _ => false

/-- The content of a line with its tokens spaced; the path of an included file stays as it is. -/
def respaceContent (content : List Char) : List Char :=
  if isInclusion content then collapse content else respace content

/-- The line with its content spaced. -/
def Line.respaced (line : Line) : Line :=
  { line with content := respaceContent line.content }

end ShaderAnalysis.Format
