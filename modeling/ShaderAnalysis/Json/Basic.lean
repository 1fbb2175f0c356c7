/-!
# JSON values

Values of the data format in which clients send settings and packages describe themselves. Whole
numbers of at most 64 bits are kept as such; of all other numbers only the text is kept, because
nothing computes with them.
-/

namespace ShaderAnalysis

/-- A JSON value. An object lists its members in the order in which they were written. -/
inductive Json where
  | null
  | bool (b : Bool)
  | int (n : Int)
  | number (text : String)
  | text (s : String)
  | array (items : List Json)
  | object (members : List (String × Json))
  deriving Repr, Inhabited

namespace Json

/-- A natural number. -/
def nat (n : Nat) : Json :=
  .int n

/-- The value of a member; a member that is written twice has its last value. -/
def member? (members : List (String × Json)) (key : String) : Option Json :=
  (members.reverse.find? (·.1 == key)).map (·.2)

/-- The value of a member of an object. -/
def get? (v : Json) (key : String) : Option Json :=
  match v with
  | .object members => member? members key
  | _ => none

/-- The text of a string. -/
def text? : Json → Option String
  | .text s => some s
  | _ => none

/-- The value of a natural number that fits into 64 bits. -/
def nat? : Json → Option Nat
  | .int n => if 0 ≤ n then some n.toNat else none
  | _ => none

def bool? : Json → Option Bool
  | .bool b => some b
  | _ => none

/-- The items of an array. -/
def array? : Json → Option (List Json)
  | .array items => some items
  | _ => none

/-- The members of an object. -/
def object? : Json → Option (List (String × Json))
  | .object members => some members
  | _ => none

def isNull : Json → Bool
  | .null => true
  | _ => false

/-- An object of the members that have a value. -/
def ofMembers (members : List (String × Option Json)) : Json :=
  .object (members.filterMap fun (key, value) => value.map (key, ·))

/-- The value, or null. -/
def ofOption (v : Option Json) : Json :=
  v.getD .null

mutual

/-- The value with the members of all objects in the order of their names. -/
def sorted : Json → Json
  | .array items => .array (sortedItems items)
  | .object members => .object ((sortedMembers members).mergeSort fun a b => !(b.1 < a.1))
  | v => v

/-- The items of an array, each sorted inside. -/
def sortedItems : List Json → List Json
  | [] => []
  | v :: rest => sorted v :: sortedItems rest

/-- The members of an object, each sorted inside. -/
def sortedMembers : List (String × Json) → List (String × Json)
  | [] => []
  | (key, v) :: rest => (key, sorted v) :: sortedMembers rest

end

end Json

end ShaderAnalysis
