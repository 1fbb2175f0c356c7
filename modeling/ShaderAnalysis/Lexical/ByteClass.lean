import ShaderAnalysis.Text.Slice
import ShaderAnalysis.Cancellation

/-!
# Lexical classes of bytes

Every byte of a source text is code, or belongs to a string, a character literal, a line comment or
a block comment. The scanner is a machine that reads the bytes in order, looks one byte ahead, and
gives each byte its class. Literals honour backslash escapes and end at a line feed that is not
escaped, so an open literal never swallows the rest of the text; a line feed that ends a literal or
a line comment is code.
-/

namespace ShaderAnalysis

/-- What a byte of source text belongs to. -/
inductive ByteClass where
  | code
  | string
  | char
  | line
  | block
  deriving DecidableEq, Repr, Inhabited

namespace ByteClass

/-- Whether the byte belongs to a comment. -/
def isComment : ByteClass → Bool
  | line | block => true
  | code | string | char => false

/-- The byte that ends a literal of this class. -/
def quote : ByteClass → UInt8
  | char => 39
  | _ => 34

end ByteClass

namespace Lexical

/-- Where the scanner is between two bytes: inside content of a class, or in the middle of a
two-byte sequence whose second byte has class `this` and is followed by content of class `next`. -/
inductive State where
  | within (content : ByteClass)
  | second (this next : ByteClass)
  deriving DecidableEq, Repr, Inhabited

/-- The class of the content that the scanner is in, or is about to enter. -/
def State.content : State → ByteClass
  | .within c => c
  | .second _ next => next

/-- Whether the scanner is at the start of a sequence. -/
def State.isStart : State → Bool
  | .within _ => true
  | .second .. => false

/-- The class of byte `b`, with `next` behind it, and where the scanner is after it. -/
def step : State → UInt8 → Option UInt8 → ByteClass × State
  | .second this next, _, _ => (this, .within next)
  | .within .code, b, next =>
    if b = 47 ∧ next = some 47 then (.line, .second .line .line)
    else if b = 47 ∧ next = some 42 then (.block, .second .block .block)
    else if b = 34 then (.string, .within .string)
    else if b = 39 then (.char, .within .char)
    else (.code, .within .code)
  | .within .line, b, _ =>
    if b = 10 then (.code, .within .code) else (.line, .within .line)
  | .within .block, b, next =>
    if b = 42 ∧ next = some 47 then (.block, .second .block .code) else (.block, .within .block)
  | .within literal, b, next =>
    if b = 92 then
      if next = none ∨ next = some 10 then (literal, .within literal)
      else (literal, .second literal literal)
    else if b = 10 then (.code, .within .code)
    else if b = literal.quote then (literal, .within .code)
    else (literal, .within literal)

/-- The classes of the bytes read from state `s` on. -/
def classesFrom (s : State) : List UInt8 → List ByteClass
  | [] => []
  | b :: bs =>
    let (c, s) := step s b bs.head?
    c :: classesFrom s bs

/-- The state after all bytes are read from state `s` on. -/
def stateAfter (s : State) : List UInt8 → State
  | [] => s
  | b :: bs => stateAfter (step s b bs.head?).2 bs

/-- The class of every byte of a text. -/
def classes (text : String) : List ByteClass :=
  classesFrom (.within .code) (bytes text)
where bytes := Text.bytes

/-- The class of the content that `offset` is in: what the next byte would be if it were ordinary
content. An offset inside a character counts as the start of the character. -/
def classAt (text : String) (offset : Nat) : ByteClass :=
  (stateAfter (.within .code) (Text.bytes (Text.upTo text offset))).content

/-! ## Questions about cancellation -/

/-- A scan asks whether it is cancelled at the first sequence that starts this many bytes or more
after the last question. -/
def questionInterval : Nat := 8192

/-- How many questions a scan asks that stands at offset `i` in state `s` and asks next at the first
sequence from offset `due` on. -/
def questionsFrom (s : State) (i due : Nat) : List UInt8 → Nat
  | [] => 0
  | b :: bs =>
    let asks := s.isStart && due ≤ i
    (if asks then 1 else 0) +
      questionsFrom (step s b bs.head?).2 (i + 1) (if asks then i + questionInterval else due) bs

/-- How many questions a scan of the text asks. -/
def questions (text : String) : Nat :=
  questionsFrom (.within .code) 0 questionInterval (Text.bytes text)

/-- The classes of all bytes, unless the scan is cancelled, and the number of questions asked by
then. -/
def scan (oracle : Oracle) (asked : Nat) (text : String) : Except Cancelled (List ByteClass × Nat) :=
  if oracle.cancelsWithin asked (questions text) then .error .cancelled
  else .ok (classes text, asked + questions text)

/-! ## Runs -/

/-- The longest runs of bytes of one class, from offset `i` on, as class, start and end. -/
def runsFrom (i : Nat) : List ByteClass → List (ByteClass × Nat × Nat)
  | [] => []
  | c :: cs =>
    match runsFrom (i + 1) cs with
    | (d, _, stop) :: rest => if c = d then (c, i, stop) :: rest else (c, i, i + 1) :: (d, i + 1, stop) :: rest
    | [] => [(c, i, i + 1)]

@[simp] theorem length_classesFrom (s : State) (bs : List UInt8) :
    (classesFrom s bs).length = bs.length := by
  induction bs generalizing s with
  | nil => rfl
  | cons b bs ih => simp [classesFrom, ih]

/-- Every byte of a text has exactly one class. -/
theorem length_classes (text : String) : (classes text).length = (Text.bytes text).length :=
  length_classesFrom _ _

end Lexical

end ShaderAnalysis
