import ShaderAnalysis.Text.Digits

/-!
# Percent encoding

Bytes that may not stand for themselves are written as a percent sign and two hexadecimal digits.
-/

namespace ShaderAnalysis.Percent

/-- The upper-case hexadecimal digit of a value below 16. -/
def digit (n : Nat) : Char :=
  Char.ofNat (if n < 10 then 48 + n else 55 + n)

/-- A byte as a percent sign and two digits. -/
def encodeByte (b : UInt8) : List Char :=
  ['%', digit (b.toNat / 16), digit (b.toNat % 16)]

/-- The characters, with those that are not ASCII or in `special` encoded. -/
def encode (special : Char → Bool) (cs : List Char) : List Char :=
  cs.flatMap fun c =>
    if c.toNat < 128 && !special c then [c] else (String.singleton c).toUTF8.toList.flatMap encodeByte

/-- The bytes of text in which percent signs with two digits behind them stand for bytes. -/
def decodeBytes : List Char → List UInt8
  | '%' :: a :: b :: rest =>
    match Text.hexDigit? a, Text.hexDigit? b with
    | some x, some y => UInt8.ofNat (16 * x + y) :: decodeBytes rest
    | _, _ => 37 :: decodeBytes (a :: b :: rest)
  | c :: rest => (String.singleton c).toUTF8.toList ++ decodeBytes rest
  | [] => []

/-- The text that encoded text stands for, if it is text. -/
def decode? (cs : List Char) : Option String :=
  String.fromUTF8? ⟨(decodeBytes cs).toArray⟩

/-- Control characters. -/
def isControl (c : Char) : Bool :=
  c.toNat < 32 || c.toNat == 127

/-- What is encoded in a fragment. -/
def inFragment (c : Char) : Bool :=
  isControl c || [' ', '"', '<', '>', '\x60'].contains c

/-- What is encoded in a path. -/
def inPath (c : Char) : Bool :=
  inFragment c || ['#', '?', '\x7b', '\x7d'].contains c

/-- What is encoded in a file name that becomes part of a path. -/
def inFileName (c : Char) : Bool :=
  inPath c || ['/', '%', '\\'].contains c

/-- What is encoded in a query. -/
def inQuery (c : Char) : Bool :=
  isControl c || [' ', '"', '#', '<', '>'].contains c

/-- What is encoded before the host. -/
def inUserInfo (c : Char) : Bool :=
  inPath c || ['/', ':', ';', '=', '@', '[', '\\', ']', '^', '|'].contains c

end ShaderAnalysis.Percent
