import ShaderAnalysis.Scan.Scanner

/-!
# Searching

A search tries a scanner at every place of a text from left to right. Found constructs do not
overlap: the search goes on behind the construct that it has found.
-/

namespace ShaderAnalysis

/-- A construct that was found, and the text that it covers. -/
structure Found (α : Type) where
  value : α
  span : Span
  deriving Repr

namespace Scanner

variable {α : Type}

/-- Every construct from here on that starts at byte `resume` or later. -/
def findFrom (s : Scanner α) (resume : Nat) (before : Option Char) (offset : Nat) :
    List Char → List (Found α)
  | [] => []
  | c :: cs =>
    if offset < resume then
      findFrom s resume (some c) (offset + c.utf8Size) cs
    else
      match s ⟨before, offset, c :: cs⟩ with
      | some (value, after) =>
        ⟨value, .between offset after.offset⟩ ::
          findFrom s after.offset (some c) (offset + c.utf8Size) cs
      | none => findFrom s resume (some c) (offset + c.utf8Size) cs

/-- Every construct from the cursor on; constructs are not empty. -/
def findAll (s : Scanner α) (c : Cursor) : List (Found α) :=
  s.findFrom c.offset c.before c.offset c.rest

/-- The first construct from here on. -/
def findFirstFrom (s : Scanner α) (before : Option Char) (offset : Nat) :
    List Char → Option (Found α)
  | [] => none
  | c :: cs =>
    match s ⟨before, offset, c :: cs⟩ with
    | some (value, after) => some ⟨value, .between offset after.offset⟩
    | none => findFirstFrom s (some c) (offset + c.utf8Size) cs

/-- The first construct from the cursor on; constructs are not empty. -/
def findFirst (s : Scanner α) (c : Cursor) : Option (Found α) :=
  s.findFirstFrom c.before c.offset c.rest

/-- What stands at the very start, if it is this construct. -/
def atStart (s : Scanner α) (c : Cursor) : Option α :=
  (s c).map (·.1)

end Scanner

end ShaderAnalysis
