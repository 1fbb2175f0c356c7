import ShaderAnalysis.Json.Basic
import ShaderAnalysis.Text.Digits

/-!
# Writing JSON

The shortest form: no blanks between tokens, and only quotes, backslashes and control characters
are escaped.
-/

namespace ShaderAnalysis.Json

/-- How a character is written between quotes. -/
def escape (c : Char) : String :=
  match c with
  | '"' => "\\\""
  | '\\' => "\\\\"
  | '\n' => "\\n"
  | '\r' => "\\r"
  | '\t' => "\\t"
  | c =>
    if c.toNat < 32 then "\\u00" ++ String.ofList [Text.hexDigit (c.toNat / 16), Text.hexDigit (c.toNat % 16)]
    else String.singleton c

/-- A text between quotes. -/
def quoted (s : String) : String :=
  s.foldl (fun out c => out ++ escape c) "\"" ++ "\""

/-- The pieces with commas between them. -/
def separated (pieces : List String) : String :=
  ",".intercalate pieces

mutual

/-- The text of a value. -/
def render : Json → String
  | .null => "null"
  | .bool b => if b then "true" else "false"
  | .int n => toString n
  | .number s => s
  | .text s => quoted s
  | .array items => "[" ++ separated (renderItems items) ++ "]"
  | .object members => "\x7b" ++ separated (renderMembers members) ++ "\x7d"

/-- The texts of the items of an array. -/
def renderItems : List Json → List String
  | [] => []
  | v :: rest => render v :: renderItems rest

/-- The texts of the members of an object. -/
def renderMembers : List (String × Json) → List String
  | [] => []
  | (key, v) :: rest => (quoted key ++ ":" ++ render v) :: renderMembers rest

end

end ShaderAnalysis.Json
