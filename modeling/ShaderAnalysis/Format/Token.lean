import ShaderAnalysis.Text.Property

/-!
# Tokens of a line of code

A line is read as words, string literals and operators. Numbers are words, and so is everything
that is not ASCII. Of operators of several characters the longest ones are tried first.
-/

namespace ShaderAnalysis.Format

/-- What a token is. -/
inductive TokenKind where
  | word
  | text
  | operator
  deriving DecidableEq, Repr

/-- A token, and whether blanks stand before it. -/
structure Token where
  text : List Char
  kind : TokenKind
  spaced : Bool
  deriving DecidableEq, Repr

namespace Token

/-- Whether the token is this operator. -/
def is (t : Token) (operator : String) : Bool :=
  t.kind == .operator && t.text == operator.toList

/-- Whether the token is one of these operators. -/
def isAny (t : Token) (operators : List String) : Bool :=
  operators.any t.is

/-- Whether a value ends with the token. -/
def isOperand (t : Token) : Bool :=
  t.kind != .operator || t.isAny [")", "]"]

end Token

/-- Operators of several characters, each before those that it starts with. -/
def longOperators : List String :=
  ["<<=", ">>=", "==", "!=", "<=", ">=", "&&", "||", "+=", "-=", "*=", "/=", "%=", "&=", "|=", "^=", "++",
    "--", "::", "<<", ">>", "->"]

/-- Whether `c` is not ASCII. -/
def isForeign (c : Char) : Bool :=
  128 ≤ c.toNat

/-- Whether `c` can be part of a word. -/
def isWordPart (c : Char) : Bool :=
  Text.isIdentChar c || isForeign c

/-- The number of characters of a string literal behind its opening quote. -/
def literalLength : List Char → Nat
  | [] => 0
  | '\\' :: [] => 1
  | '\\' :: _ :: cs => literalLength cs + 2
  | c :: cs => if c = '"' then 1 else literalLength cs + 1

/-- The number of further characters of a number whose last one so far is `last`. A sign belongs to
the number if it stands between an exponent mark and a digit, but not in hexadecimal. -/
def numberLength (hexadecimal : Bool) (last : Char) : List Char → Nat
  | [] => 0
  | c :: cs =>
    if Text.isIdentChar c || c == '.' then numberLength hexadecimal c cs + 1
    else if (last == 'e' || last == 'E') && !hexadecimal && (c == '+' || c == '-') && cs.head?.any Char.isDigit then
      numberLength hexadecimal c cs + 1
    else 0

/-- Whether a number starts with these characters. -/
def startsNumber : List Char → Bool
  | '.' :: c :: _ => c.isDigit
  | c :: _ => c.isDigit
  | [] => false

/-- The kind of the token that starts with `c`, and how many characters it has after it. -/
def tokenShape (c : Char) (cs : List Char) : TokenKind × Nat :=
  if c = '"' then (.text, literalLength cs)
  else if startsNumber (c :: cs) then (.word, numberLength (['0', 'x'].isPrefixOf (c :: cs)) c cs)
  else if Text.isIdentStart c || isForeign c then (.word, (cs.takeWhile isWordPart).length)
  else
    match longOperators.find? fun op => op.toList.isPrefixOf (c :: cs) with
    | some op => (.operator, op.length - 1)
    | none => (.operator, 0)

/-- The tokens of code; `spaced` says whether blanks stand before the first one. -/
def tokensFrom (spaced : Bool) (code : List Char) : List Token :=
  match code with
  | [] => []
  | c :: cs =>
    if Text.isAsciiBlank c then tokensFrom true cs
    else
      let (kind, more) := tokenShape c cs
      ⟨c :: cs.take more, kind, spaced⟩ :: tokensFrom false (cs.drop more)
termination_by code.length
decreasing_by all_goals simp only [List.length_cons, List.length_drop]; omega

/-- The tokens of a line of code. -/
def tokens (code : List Char) : List Token :=
  tokensFrom false code

end ShaderAnalysis.Format
