import ShaderAnalysis.Hlsl.Words
import ShaderAnalysis.Text.Words

/-!
# What can be a type

A spelling is a base name, perhaps followed by dimensions as in `float3` and `half4x4`. Which bases
and dimensions are taken depends on who asks; the questions are kept apart here.
-/

namespace ShaderAnalysis.Hlsl

/-- What follows the base name of a type: nothing, the size of a vector, or rows and columns. -/
inductive Dimensions where
  | scalar
  | vector (size : Nat)
  | matrix (rows columns : Nat)
  deriving DecidableEq, Repr

/-- A digit from `low` to 4. -/
def dimension? (low : Nat) (c : Char) : Option Nat :=
  let n := c.toNat - 48
  if c.isDigit ∧ low ≤ n ∧ n ≤ 4 then some n else none

/-- The dimensions that these characters write, each at least `low`. -/
def Dimensions.ofChars? (low : Nat) : List Char → Option Dimensions
  | [] => some .scalar
  | [n] => (dimension? low n).map .vector
  | [r, 'x', c] => do return .matrix (← dimension? low r) (← dimension? low c)
  | _ => none

/-- The dimensions of a type name with one of these bases. -/
def dimensionsOf? (bases : List String) (low : Nat) (name : String) : Option Dimensions :=
  bases.findSome? fun base =>
    if base.toList.isPrefixOf name.toList then
      Dimensions.ofChars? low (name.toList.drop base.length)
    else
      none

/-- Bases of arithmetic types of any dimensions. -/
def arithmeticBases : List String :=
  ["bool", "int", "uint", "half", "float", "double", "dword", "fixed", "min16float", "min10float",
    "min16int", "min12int", "min16uint"]

/-- Bases of the vector types whose components can be selected. -/
def vectorBases : List String :=
  ["float", "half", "int", "uint", "bool", "double", "min16float", "min16int", "min16uint"]

/-- Bases of the types that code regions of a shader know. -/
def regionBases : List String :=
  ["float", "fixed", "int", "half"]

/-- Whether `name` is the exact spelling of a builtin type. -/
def isType (name : String) : Bool :=
  builtinTypes.contains name

/-- Whether `word` can never be the type of a declaration. -/
def isDeclarationGuard (word : String) : Bool :=
  declarationGuards.contains word

/-- Whether `name` is an arithmetic type of any dimensions. -/
def isArithmetic (name : String) : Bool :=
  (dimensionsOf? arithmeticBases 1 name).isSome

/-- Whether `name` is plausible as the type of a declaration: a builtin type, a name with a capital
first letter, or one of the declared types. -/
def isDeclarationType (name : String) (declared : List String) : Bool :=
  !isDeclarationGuard name &&
    (isType name || isArithmetic name || name.toList.head?.any Char.isUpper || declared.contains name)

/-- Whether `word` is a keyword or spells a builtin type, case aside. -/
def isKeyword (word : String) : Bool :=
  keywords.any (Text.sameIgnoringAsciiCase word) || builtinTypes.any (Text.sameIgnoringAsciiCase word) ||
    isArithmetic (Text.asciiLower word)

/-- The number of components of a vector type. -/
def vectorWidth? (name : String) : Option Nat :=
  match dimensionsOf? vectorBases 2 name with
  | some (.vector size) => some size
  | _ => none

/-- Whether code regions of a shader take `name` for a type without a declaration. -/
def isRegionBaseType (name : String) : Bool :=
  (dimensionsOf? regionBases 2 name).isSome || name == "sampler2D" || isType name

end ShaderAnalysis.Hlsl
