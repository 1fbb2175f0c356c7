import ShaderAnalysis.Lexical.Mask
import ShaderAnalysis.Text.Property

/-!
# Call sites

The call that a cursor is in is found by going back from the cursor to the parenthesis that is still
open: the commas on the way count the arguments, and the word before the parenthesis is the name.
-/

namespace ShaderAnalysis

/-- An open call, and the number of the argument that the cursor is in. -/
structure CallSite where
  name : String
  argument : Nat
  deriving DecidableEq, Repr

/-- Why no answer can be given: the character before the name is not ASCII, and the name would be
cut off inside it. -/
inductive CallFault where
  | insideCharacter
  deriving DecidableEq, Repr

namespace CallSite

/-- Words before a parenthesis that are not called. -/
def controlWords : List String :=
  ["if", "for", "while", "switch", "return"]

/-- Goes back through text, given in reverse, to the parenthesis that is open at its end: the number of
commas on the way, and the text before the parenthesis, still in reverse. A semicolon or brace on
the way means that there is no call. -/
def openParenthesis? (depth commas : Nat) : List Char → Option (Nat × List Char)
  | [] => none
  | c :: cs =>
    if c = ')' then openParenthesis? (depth + 1) commas cs
    else if c = '(' then
      if depth = 0 then some (commas, cs) else openParenthesis? (depth - 1) commas cs
    else if depth = 0 ∧ c = ',' then openParenthesis? depth (commas + 1) cs
    else if depth = 0 ∧ (c = ';' ∨ c = '\x7b' ∨ c = '\x7d') then none
    else openParenthesis? depth commas cs

/-- The identifier at the end of text that is given in reverse, blanks aside. -/
def nameBefore (reversed : List Char) : Except CallFault String :=
  let before := reversed.dropWhile Text.isBlank
  let name := (before.takeWhile Text.isIdentChar).reverse
  match before.dropWhile Text.isIdentChar with
  | c :: _ => if c.toNat < 128 then .ok (String.ofList name) else .error .insideCharacter
  | [] => .ok (String.ofList name)

/-- Whether this name can be called. -/
def isCallable (name : String) : Bool :=
  match name.toList.head? with
  | none => false
  | some c => !c.isDigit && !controlWords.contains name

/-- The innermost call that is open at `offset`. -/
def at? (text : String) (offset : Nat) : Except CallFault (Option CallSite) :=
  let masked := Lexical.mask (Text.upTo text offset)
  match openParenthesis? 0 0 masked.toList.reverse with
  | none => .ok none
  | some (commas, before) => do
    let name ← nameBefore before
    return if isCallable name then some ⟨name, commas⟩ else none

end CallSite

end ShaderAnalysis
