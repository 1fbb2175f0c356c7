import ShaderAnalysis.Lexical.ByteClass

/-!
# Masking comments

Extraction reads a text whose comments are blanked out: every byte of a comment becomes a space,
but line feeds and carriage returns stay, so that offsets and lines stay the same.
-/

namespace ShaderAnalysis.Lexical

/-- What stands for byte `b` of class `c` once comments are masked. -/
def maskByte (b : UInt8) (c : ByteClass) : UInt8 :=
  if c.isComment && b != 10 && b != 13 then 32 else b

/-- The bytes of a text, of the given classes, with comments masked. -/
def maskBytes (bs : List UInt8) (cs : List ByteClass) : List UInt8 :=
  List.zipWith maskByte bs cs

/-- The text with these classes and its comments masked. -/
def maskWith (text : String) (cs : List ByteClass) : String :=
  (String.fromUTF8? ⟨(maskBytes (Text.bytes text) cs).toArray⟩).getD text

/-- The text with its comments masked. -/
def mask (text : String) : String :=
  maskWith text (classes text)

/-- The text with its comments masked, unless the scan is cancelled, and the number of questions
asked by then. -/
def maskScan (oracle : Oracle) (asked : Nat) (text : String) : Except Cancelled (String × Nat) := do
  let (cs, asked) ← scan oracle asked text
  return (maskWith text cs, asked)

end ShaderAnalysis.Lexical
