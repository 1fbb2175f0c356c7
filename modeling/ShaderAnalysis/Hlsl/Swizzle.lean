import ShaderAnalysis.Hlsl.Types

/-!
# Swizzles

The components of a vector can be selected by position or by colour, one at a time or from the first
on.
-/

namespace ShaderAnalysis.Hlsl

/-- Names of the components of a vector with four of them. -/
def positionNames : List Char := ['x', 'y', 'z', 'w']

def colorNames : List Char := ['r', 'g', 'b', 'a']

/-- The swizzles that are offered for a vector with this many components. -/
def swizzlesOfWidth (width : Nat) : List String :=
  ((positionNames.take width) ++ (colorNames.take width)).map String.singleton ++
    (([2, 3, 4].filter (· ≤ width)).flatMap fun n =>
      [String.ofList (positionNames.take n), String.ofList (colorNames.take n)])

/-- The swizzles that are offered for a type; only vectors have any. -/
def swizzles (type : String) : List String :=
  (vectorWidth? type).elim [] swizzlesOfWidth

end ShaderAnalysis.Hlsl
