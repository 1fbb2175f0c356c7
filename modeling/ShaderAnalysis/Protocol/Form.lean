import ShaderAnalysis.Files.Uri
import ShaderAnalysis.Json.Basic
import ShaderAnalysis.Number.Bounds
import ShaderAnalysis.Text.Digits

/-!
# The form of parameters

What the parameters of a message have to look like, and how they are brought into that form. A record
is written as an object, or as an array of its members in order; the members of a joined record are its own
and those of its parts. Of several faults the one in a member that is there counts, the first by
name, and only then a member that is missing, the first as the record lists them.
-/

namespace ShaderAnalysis

/-- What a value has to look like. -/
inductive Form where
  | any
  | bool
  | text
  | unsigned
  | signed
  | url
  | token
  | optional (form : Form)
  | omissible (form : Form)
  | list (item : Form)
  | record (name : String) (members : List (String × Form))
  | joined (name : String) (members : List (String × Form)) (parts : List Form)
  deriving Repr, Inhabited

/-- Why a value is not of a form. -/
inductive FormFault where
  | missing (member : String)
  | wrongKind (found : Json) (expected : String)
  | wrongValue (found : Json) (expected : String)
  | wrongLength (length : Nat) (expected : String)
  | noToken
  deriving Repr

namespace FormFault

/-- How a character of a text is shown. -/
def shownChar (c : Char) : String :=
  match c with
  | '"' => "\\\""
  | '\\' => "\\\\"
  | '\n' => "\\n"
  | '\r' => "\\r"
  | '\t' => "\\t"
  | '\x00' => "\\0"
  | c =>
    if c.toNat < 32 ∨ (127 ≤ c.toNat ∧ c.toNat < 160) then "\\u\x7b" ++ Text.hexText c.toNat ++ "\x7d"
    else String.singleton c

/-- How a value is shown that is not what was expected. -/
def shown : Json → String
  | .null => "null"
  | .bool b => "boolean `" ++ (if b then "true" else "false") ++ "`"
  | .int n => "integer `" ++ toString n ++ "`"
  | .number s => "floating point `" ++ s ++ "`"
  | .text s => "string \"" ++ s.foldl (fun out c => out ++ shownChar c) "" ++ "\""
  | .array _ => "sequence"
  | .object _ => "map"

/-- The text of a fault. -/
def message : FormFault → String
  | missing member => "missing field `" ++ member ++ "`"
  | wrongKind found expected => "invalid type: " ++ shown found ++ ", expected " ++ expected
  | wrongValue found expected => "invalid value: " ++ shown found ++ ", expected " ++ expected
  | wrongLength length expected => "invalid length " ++ toString length ++ ", expected " ++ expected
  | noToken => "data did not match any variant of untagged enum NumberOrString"

end FormFault

namespace Form

/-- A record as it is called in faults. -/
def recordText (name : String) : String :=
  "struct " ++ name

/-- A record as it is called in faults about the length of an array. -/
def lengthText (name : String) (length : Nat) : String :=
  recordText name ++ " with " ++ toString length ++ (if length = 1 then " element" else " elements")

/-- A value that is one of a kind, which is called by a name. -/
def readKind (isOne : Json → Bool) (expected : String) (v : Json) : Except FormFault Json :=
  if isOne v then .ok v else .error (.wrongKind v expected)

/-- A whole number that is one of a kind, which is called by a name. -/
def readWhole (isOne : Int → Bool) (expected : String) (v : Json) : Except FormFault Json :=
  match v with
  | .int n => if isOne n then .ok v else .error (.wrongValue v expected)
  | _ => .error (.wrongKind v expected)

/-- Whether a number is natural and has at most 32 bits. -/
def isUnsigned (n : Int) : Bool :=
  decide (0 ≤ n) && fitsBits 32 n.toNat

/-- The text of a URL. -/
def readUrl (v : Json) : Except FormFault Json :=
  match v with
  | .text s =>
    match Uri.parse s with
    | .ok _ => .ok v
    | .error fault => .error (.wrongValue v fault.message)
  | _ => .error (.wrongKind v "a string representing an URL")

/-- A token is a text or a number. -/
def isToken : Json → Bool
  | .text _ => true
  | .int n => fitsSigned 32 n
  | _ => false

/-- What has been found for a member: nothing, a value of the right form, or a fault. -/
abbrev Found := Option (Except FormFault Json)

/-- What is found if there is no value. -/
def ofNothing : Form → Found
  | .optional _ | .omissible _ => some (.ok .null)
  | _ => none

/-- The fault of a value that has been found. -/
def Found.fault? : Found → Option FormFault
  | some (.error fault) => some fault
  | _ => none

/-- The members of a record, if there is no fault and none is missing. -/
def settle (members : List (String × Found)) : Except FormFault (List (String × Json)) :=
  let byName := members.mergeSort fun a b => !(b.1 < a.1)
  match byName.findSome? (·.2.fault?) with
  | some fault => .error fault
  | none =>
    members.mapM fun (key, found) =>
      match found with
      | some v => v.map (key, ·)
      | none => .error (.missing key)

mutual

/-- A value in this form, with all records written as objects. -/
def read : Form → Json → Except FormFault Json
  | .any, v => .ok v
  | .bool, v => readKind (·.bool?.isSome) "a boolean" v
  | .text, v => readKind (·.text?.isSome) "a string" v
  | .unsigned, v => readWhole isUnsigned "u32" v
  | .signed, v => readWhole (fitsSigned 32) "i32" v
  | .url, v => readUrl v
  | .token, v => if isToken v then .ok v else .error .noToken
  | .optional form, v => if v.isNull then .ok v else form.read v
  | .omissible form, v => form.read v
  | .list item, v =>
    match v with
    | .array items => (items.mapM item.read).map .array
    | _ => .error (.wrongKind v "a sequence")
  | .record name members, v =>
    match v with
    | .object given => (settle (readMembers members given)).map .object
    | .array items =>
      if members.length < items.length then .error (.wrongLength items.length "fewer elements in array")
      else (readItems (lengthText name members.length) 0 members items).map .object
    | _ => .error (.wrongKind v (recordText name))
  | .joined name members parts, v =>
    match v with
    | .object given => do
      let own ← settle (readMembers members given)
      return .object (own ++ (← readParts parts given))
    | _ => .error (.wrongKind v (recordText name))

/-- What an object has for each of the members. -/
def readMembers : List (String × Form) → List (String × Json) → List (String × Found)
  | [], _ => []
  | (key, form) :: rest, given =>
    (key, match Json.member? given key with
      | some v => some (form.read v)
      | none => form.ofNothing) :: readMembers rest given

/-- The members in the order of an array, in front of which `length` others stand. -/
def readItems (expected : String) (length : Nat) :
    List (String × Form) → List Json → Except FormFault (List (String × Json))
  | [], _ => .ok []
  | _ :: _, [] => .error (.wrongLength length expected)
  | (key, form) :: rest, v :: items => do
    let v ← form.read v
    return (key, v) :: (← readItems expected (length + 1) rest items)

/-- The members of all the parts. -/
def readParts : List Form → List (String × Json) → Except FormFault (List (String × Json))
  | [], _ => .ok []
  | form :: rest, given => do
    let part ← form.read (.object given)
    return part.object?.getD [] ++ (← readParts rest given)

end

end Form

end ShaderAnalysis
