import ShaderAnalysis.Json.Reader
import ShaderAnalysis.Scan.Search
import ShaderAnalysis.Toml.Table

/-!
# Reading configuration files

The grammar of TOML 1.0: a text is a row of statements, one a line. Values nest at most `depthLimit`
deep, and whole numbers have 64 bits.
-/

namespace ShaderAnalysis.Toml

open Scanner

variable {α : Type}

/-- As many of these constructs as there are, at most `fuel`. -/
def upTo (s : Scanner α) : Nat → Scanner (List α)
  | 0 => pure []
  | fuel + 1 => (do
      let a ← s
      return a :: (← upTo s fuel)) <|> pure []

/-- As many of these constructs as there are; they are not empty. -/
def repeated (s : Scanner α) : Scanner (List α) := do
  upTo s (← get).rest.length

/-- Constructs with a separator between any two. -/
def separated (s : Scanner α) (separator : Char) : Scanner (List α) :=
  (do
    let first ← s
    return first :: (← repeated (do char separator; s))) <|> pure []

/-- The text of what is recognised. -/
def textOf (s : Scanner (List Char)) : Scanner String := do
  return String.ofList (← s)

/-! ## Blanks, comments and lines -/

/-- The end of a line. -/
def newline : Scanner Unit :=
  char '\n' <|> literal "\r\n"

/-- A character that is not a control character other than the tab. -/
def isPlain (c : Char) : Bool :=
  c == '\t' || (c.toNat ≥ 32 && c.toNat != 127)

/-- A comment, up to the end of the line. -/
def comment : Scanner Unit := do
  char '#'
  discard (runAny isPlain)

/-- Whether nothing is left. -/
def atEnd : Scanner Unit :=
  require (·.rest.isEmpty)

/-- The rest of a line behind a statement. -/
def lineRest : Scanner Unit := do
  spaces
  discard (optional comment)
  newline <|> atEnd

/-- Blanks, comments and line ends. -/
def filler : Scanner Unit := do
  spaces
  discard (repeated (do
    discard (optional comment)
    newline
    spaces))

/-! ## Strings -/

/-- A hexadecimal digit. -/
def isHexDigit (c : Char) : Bool :=
  (Text.hexDigit? c).isSome

/-- The character with a code of this many hexadecimal digits. -/
def codePoint (digits : Nat) : Scanner Char := do
  let ds ← (List.replicate digits isHexDigit).mapM satisfy
  let code := (Text.hexNumber? ds).getD 0
  guard (code < 0xD800 || (0xE000 ≤ code && code < 0x110000))
  return Char.ofNat code

/-- A character that is written with a backslash. -/
def escapedChar : Scanner Char := do
  char '\\'
  let c ← satisfy fun _ => true
  if c == 'u' then codePoint 4
  else if c == 'U' then codePoint 8
  else
    guard (c != '/')
    StateT.lift (Json.escaped? c)

/-- Text between quotes, on one line. -/
def basicString : Scanner String := do
  char '"'
  let cs ← repeated (satisfy (fun c => isPlain c && c != '"' && c != '\\') <|> escapedChar)
  char '"'
  return String.ofList cs

/-- Text between apostrophes, on one line. -/
def literalString : Scanner String := do
  char '\''
  let cs ← runAny fun c => isPlain c && c != '\''
  char '\''
  return cs.text

/-- Text over several lines: its parts, with at most two quotes in a row between them and before the
closing ones. -/
def multiline (quote : Char) (part : Scanner Unit) : Scanner Unit := do
  let closing := List.replicate 3 quote
  let quotes := do
    let c ← get
    guard !(closing.isPrefixOf c.rest)
    char quote
  chars closing
  discard (optional newline)
  discard (repeated (part <|> quotes))
  chars (quote :: quote :: closing) <|> chars (quote :: closing) <|> chars closing

/-- A part of text between quotes over several lines. -/
def basicPart : Scanner Unit :=
  discard (run fun c => isPlain c && c != '"' && c != '\\') <|> newline <|> discard escapedChar <|> (do
    char '\\'
    spaces
    newline
    discard (repeated (newline <|> spaceGap)))

/-- A part of text between apostrophes over several lines. -/
def literalPart : Scanner Unit :=
  discard (run fun c => isPlain c && c != '\'') <|> newline

/-- Text in any of the four forms. -/
def string : Scanner Unit :=
  multiline '"' basicPart <|> discard basicString <|> multiline '\'' literalPart <|> discard literalString

/-! ## Keys -/

/-- A character of a key without quotes. -/
def isKeyChar (c : Char) : Bool :=
  c.isAlphanum || c == '_' || c == '-'

/-- A part of a key. -/
def simpleKey : Scanner String := do
  spaces
  let key ← basicString <|> literalString <|> Lexeme.text <$> run isKeyChar
  spaces
  return key

/-- How many arrays or tables may be nested, plus one. -/
def depthLimit : Nat := 80

/-- A key: the parts before the last one, and the last one. -/
def key : Scanner (List String × String) := do
  let parts ← separated simpleKey '.'
  guard (parts.length < depthLimit)
  let last ← StateT.lift parts.getLast?
  return (parts.dropLast, last)

/-! ## Numbers and times -/

/-- Digits, perhaps with single underscores between them. -/
def digits (isDigit : Char → Bool) : Scanner (List Char) := do
  let first ← satisfy isDigit
  return first :: (← repeated (satisfy isDigit <|> (do char '_'; satisfy isDigit)))

/-- A sign; whether it is a minus. -/
def sign : Scanner Bool := do
  return (← optional (satisfy fun c => c == '+' || c == '-')) == some '-'

/-- A decimal number without a leading zero. -/
def decimal : Scanner (Bool × List Char) := do
  let negative ← sign
  let ds ← (do
    let ds ← digits Char.isDigit
    guard (ds.head? != some '0')
    return ds) <|> (List.singleton <$> satisfy Char.isDigit)
  return (negative, ds)

/-- A number that is written with this sign in front and digits of this base. -/
def inBase (mark : String) (base : Nat) : Scanner Int := do
  literal mark
  let ds ← digits fun c => (Text.hexDigit? c).any (· < base)
  let n := ds.foldl (fun n c => base * n + (Text.hexDigit? c).getD 0) 0
  guard (fitsBits 63 n)
  return n

/-- A whole number. -/
def integer : Scanner Int :=
  inBase "0x" 16 <|> inBase "0o" 8 <|> inBase "0b" 2 <|> do
    let (negative, ds) ← decimal
    let n : Int := Text.decimal ds
    let n := if negative then -n else n
    guard (fitsSigned 64 n)
    return n

/-- A number with a fraction or an exponent; a positive one must not be too large for a double. -/
def float : Scanner Unit := do
  let (negative, whole) ← decimal
  let fraction ← optional (do char '.'; digits Char.isDigit)
  let exponent ← optional (do
    discard (satisfy fun c => c == 'e' || c == 'E')
    return (← sign, ← digits Char.isDigit))
  guard (fraction.isSome || exponent.isSome)
  guard (negative || !(Json.NumberText.mk negative whole fraction exponent).overflows)

/-- A number that is no number, or infinite. -/
def specialFloat : Scanner Unit := do
  discard sign
  literal "inf" <|> literal "nan"

/-- A number of this many digits within bounds. -/
def field (count low high : Nat) : Scanner Nat := do
  let ds ← (List.replicate count Char.isDigit).mapM satisfy
  let n := Text.decimal ds
  guard (low ≤ n && n ≤ high)
  return n

/-- The number of days of a month. -/
def daysIn (year month : Nat) : Nat :=
  if month = 2 then if year % 4 = 0 ∧ (year % 100 ≠ 0 ∨ year % 400 = 0) then 29 else 28
  else if month = 4 ∨ month = 6 ∨ month = 9 ∨ month = 11 then 30
  else 31

/-- A day. -/
def date : Scanner Unit := do
  let year ← field 4 0 9999
  char '-'
  let month ← field 2 1 12
  char '-'
  discard (field 2 1 (daysIn year month))

/-- A time of day. -/
def time : Scanner Unit := do
  discard (field 2 0 23)
  char ':'
  discard (field 2 0 59)
  char ':'
  discard (field 2 0 60)
  discard (optional (do char '.'; run Char.isDigit))

/-- The difference to universal time. -/
def zone : Scanner Unit :=
  discard (satisfy fun c => c == 'Z' || c == 'z') <|> (do
    discard (satisfy fun c => c == '+' || c == '-')
    discard (field 2 0 23)
    char ':'
    discard (field 2 0 59))

/-- A day, a time, or both. -/
def moment : Scanner Unit :=
  (do
    date
    discard (optional (do
      discard (satisfy fun c => c == 'T' || c == 't' || c == ' ')
      time
      discard (optional zone)))) <|> time

/-! ## Values and statements -/

/-- A value in which at most `depth` arrays and tables are nested. -/
def value (depth : Nat) : Scanner Value :=
  (do string; return .other) <|> (do moment; return .other) <|> (do float; return .other) <|>
    (do specialFloat; return .other) <|> (do return .integer (← integer)) <|>
    (do literal "true"; return .boolean true) <|> (do literal "false"; return .boolean false) <|>
    match depth with
    | 0 => failure
    | depth + 1 => array (value depth) <|> inlineTable (value depth)
where
  /-- An array of values. -/
  array (item : Scanner Value) : Scanner Value := do
    char '['
    let items ← separated (do filler; let v ← item; filler; return v) ','
    if !items.isEmpty then discard (optional (char ','))
    filler
    char ']'
    return .other
  /-- A table on one line. -/
  inlineTable (item : Scanner Value) : Scanner Value := do
    char '\x7b'
    let pairs ← separated (do
      let (path, last) ← key
      char '='
      spaces
      let v ← item
      spaces
      return (path, last, v)) ','
    spaces
    char '\x7d'
    guard (pairs.foldlM (fun t (path, last, v) => Entries.give .header path last v t) []).isSome
    return .other

/-- A statement with the rest of its line. -/
def statement : Scanner Statement :=
  (do
    literal "[["
    let (path, last) ← key
    literal "]]"
    lineRest
    return .tables path last) <|>
  (do
    char '['
    let (path, last) ← key
    char ']'
    lineRest
    return .table path last) <|> do
    let (path, last) ← key
    char '='
    spaces
    let v ← value (depthLimit - 1)
    lineRest
    return .pair path last v

/-- A line: a statement, or nothing but blanks and a comment. -/
def line : Scanner (Option Statement) := do
  let s ← some <$> statement <|> (do
    discard (optional comment)
    newline
    return none)
  spaces
  return s

/-- The statements of a text. -/
def statements : Scanner (List Statement) := do
  discard (optional (char '\ufeff'))
  spaces
  let lines ← repeated line
  discard (optional comment)
  atEnd
  return lines.filterMap id

/-- The table that a text describes. -/
def parse? (text : String) : Option Entries := do
  describe? (← statements.atStart (.ofText text 0))

end ShaderAnalysis.Toml
