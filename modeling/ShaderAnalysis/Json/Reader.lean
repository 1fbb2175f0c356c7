import ShaderAnalysis.Json.Basic
import ShaderAnalysis.Number.Bounds
import ShaderAnalysis.Text.Digits

/-!
# Reading JSON

A text is first split into tokens, and a machine with a stack of open arrays and objects then builds
the value. Both go once over their input. Values nest at most `depthLimit` deep, and a scalar can
lack a value: a half of a surrogate pair is not text, and a number may be too large for a double.
A reader that only looks at the outermost array or object passes over such flaws further inside.
-/

namespace ShaderAnalysis.Json

/-- The smallest unit of JSON text. -/
inductive Token where
  | openArray
  | closeArray
  | openObject
  | closeObject
  | comma
  | colon
  | scalar (v : Json)
  | flawed (isText : Bool)
  deriving Repr

/-! ## Strings -/

/-- The character that a backslash before `c` stands for. -/
def escaped? (c : Char) : Option Char :=
  match c with
  | '"' => some '"'
  | '\\' => some '\\'
  | '/' => some '/'
  | 'b' => some '\x08'
  | 'f' => some '\x0c'
  | 'n' => some '\n'
  | 'r' => some '\r'
  | 't' => some '\t'
  | _ => none

/-- The character of a code unit, or of two that form a surrogate pair. -/
def ofUnits? (high : Nat) (low? : Option Nat) : Option Char :=
  match low? with
  | none => if 0xD800 ≤ high ∧ high < 0xE000 then none else some (Char.ofNat high)
  | some low =>
    if 0xD800 ≤ high ∧ high < 0xDC00 ∧ 0xDC00 ≤ low ∧ low < 0xE000 then
      some (Char.ofNat (0x10000 + (high - 0xD800) * 0x400 + (low - 0xDC00)))
    else
      none

/-- The text up to the closing quote, and what follows. The characters before are in `acc` in
reverse, unless there was a half of a surrogate pair among them. -/
def unquote (acc : Option (List Char)) : List Char → Option (Option String × List Char)
  | [] => none
  | '"' :: rest => some (acc.map fun cs => String.ofList cs.reverse, rest)
  | '\\' :: 'u' :: a :: b :: c :: d :: '\\' :: 'u' :: e :: f :: g :: h :: rest =>
    match Text.hexNumber? [a, b, c, d], Text.hexNumber? [e, f, g, h] with
    | some high, some low =>
      match ofUnits? high none, ofUnits? high (some low) with
      | some x, _ => unquote (acc.map (x :: ·)) ('\\' :: 'u' :: e :: f :: g :: h :: rest)
      | none, some x => unquote (acc.map (x :: ·)) rest
      | none, none => unquote none ('\\' :: 'u' :: e :: f :: g :: h :: rest)
    | _, _ => none
  | '\\' :: 'u' :: a :: b :: c :: d :: rest =>
    match Text.hexNumber? [a, b, c, d] with
    | none => none
    | some unit => unquote (acc.bind fun cs => (ofUnits? unit none).map (· :: cs)) rest
  | '\\' :: c :: rest =>
    match escaped? c with
    | some x => unquote (acc.map (x :: ·)) rest
    | none => none
  | c :: rest => if c.toNat < 32 then none else unquote (acc.map (c :: ·)) rest

/-! ## Numbers -/

/-- The parts of the text of a number. -/
structure NumberText where
  negative : Bool
  whole : List Char
  fraction : Option (List Char)
  exponent : Option (Bool × List Char)

/-- A nonempty run of digits and what follows it. -/
def digits? (cs : List Char) : Option (List Char × List Char) :=
  let ds := cs.takeWhile Char.isDigit
  if ds.isEmpty then none else some (ds, cs.dropWhile Char.isDigit)

/-- The parts of a number, if the text is one. -/
def NumberText.ofChars? (cs : List Char) : Option NumberText := do
  let negative := cs.head? == some '-'
  let (whole, rest) ← digits? (if negative then cs.tail else cs)
  guard (whole.length == 1 || whole.head? != some '0')
  let (fraction, rest) ←
    match rest with
    | '.' :: rest => do
      let (ds, rest) ← digits? rest
      pure (some ds, rest)
    | _ => pure (none, rest)
  let (exponent, rest) ←
    match rest with
    | e :: rest =>
      if e == 'e' || e == 'E' then do
        let down := rest.head? == some '-'
        let (ds, rest) ← digits? (if down || rest.head? == some '+' then rest.tail else rest)
        pure (some (down, ds), rest)
      else
        pure (none, e :: rest)
    | [] => pure (none, [])
  guard rest.isEmpty
  return ⟨negative, whole, fraction, exponent⟩

/-- The least number that is too large for a double: half a unit above the largest one. -/
def doubleLimit : Nat :=
  Nat.pow 2 1024 - Nat.pow 2 970

/-- Whether the number is too large for a double. -/
def NumberText.overflows (t : NumberText) : Bool :=
  let ds := t.whole ++ t.fraction.getD []
  let significant := ds.dropWhile (· == '0')
  let places := (t.fraction.getD []).length
  let (down, ds) := t.exponent.getD (false, [])
  let e := Text.decimal ds
  if significant.isEmpty then false
  else if down then
    significant.length > places + e + 308 && Text.decimal significant ≥ Nat.pow 10 (places + e) * doubleLimit
  else if significant.length + e > places + 400 then true
  else Text.decimal significant * Nat.pow 10 e ≥ Nat.pow 10 places * doubleLimit

/-- The token of a number: a whole number of 64 bits, or only its text. -/
def number? (cs : List Char) : Option Token := do
  let t ← NumberText.ofChars? cs
  if t.fraction.isNone && t.exponent.isNone then
    let n := Text.decimal t.whole
    if !t.negative && fitsBits 64 n then return .scalar (.int n)
    if t.negative && n != 0 && fitsSigned 64 (-n) then return .scalar (.int (-n))
  return if t.overflows then .flawed false else .scalar (.number (String.ofList cs))

/-! ## Tokens -/

/-- Whether `c` may separate tokens. -/
def isSpace (c : Char) : Bool :=
  c == ' ' || c == '\t' || c == '\n' || c == '\r'

/-- Whether `c` can be part of a number. -/
def isNumberChar (c : Char) : Bool :=
  c.isDigit || c == '-' || c == '+' || c == '.' || c == 'e' || c == 'E'

/-- The token of one character. -/
def punctuation? (c : Char) : Option Token :=
  match c with
  | '[' => some .openArray
  | ']' => some .closeArray
  | '\x7b' => some .openObject
  | '\x7d' => some .closeObject
  | ',' => some .comma
  | ':' => some .colon
  | _ => none

/-- A word that is a value, and what follows it. -/
def name? (cs : List Char) : Option (Json × List Char) :=
  if "null".toList.isPrefixOf cs then some (.null, cs.drop 4)
  else if "true".toList.isPrefixOf cs then some (.bool true, cs.drop 4)
  else if "false".toList.isPrefixOf cs then some (.bool false, cs.drop 5)
  else none

/-- The token of the scalar at the start, and what follows it. -/
def scalar? (cs : List Char) : Option (Token × List Char) :=
  match cs with
  | '"' :: rest =>
    (unquote (some []) rest).map fun (s?, rest) =>
      match s? with
      | some s => (.scalar (.text s), rest)
      | none => (.flawed true, rest)
  | _ =>
    match name? cs with
    | some (v, rest) => some (.scalar v, rest)
    | none => (number? (cs.takeWhile isNumberChar)).map (·, cs.dropWhile isNumberChar)

/-- The tokens after `acc`, which is in reverse; each takes at least one character of the fuel. -/
def tokensFrom (acc : List Token) : Nat → List Char → Option (List Token)
  | _, [] => some acc.reverse
  | 0, _ :: _ => none
  | fuel + 1, c :: cs =>
    if isSpace c then tokensFrom acc fuel cs
    else
      match punctuation? c with
      | some t => tokensFrom (t :: acc) fuel cs
      | none =>
        match scalar? (c :: cs) with
        | some (t, rest) => tokensFrom (t :: acc) fuel rest
        | none => none

/-- The tokens of a text. -/
def tokens? (text : String) : Option (List Token) :=
  tokensFrom [] text.length text.toList

/-! ## Values -/

/-- An array or object that is not closed yet, with its contents in reverse. -/
inductive Open where
  | array (items : List Json)
  | object (members : List (String × Json)) (key : Option String)

/-- What may come next. -/
inductive Expected where
  | value
  | valueOrClose
  | keyOrClose
  | key
  | colon
  | separator
  | nothing
  deriving DecidableEq

/-- The value read so far. -/
structure Building where
  stack : List Open
  expected : Expected
  result : Option Json

/-- How deep arrays and objects may be nested. -/
def depthLimit : Nat := 127

/-- A complete value goes into what is open around it. -/
def Building.put (b : Building) (v : Json) : Building :=
  match b.stack with
  | [] => ⟨[], .nothing, some v⟩
  | .array items :: rest => ⟨.array (v :: items) :: rest, .separator, none⟩
  | .object members (some key) :: rest => ⟨.object ((key, v) :: members) none :: rest, .separator, none⟩
  | .object members none :: rest => ⟨.object members none :: rest, .separator, none⟩

/-- The innermost open array or object is complete. -/
def Building.close (b : Building) (isObject : Bool) : Option Building :=
  match b.stack, isObject with
  | .array items :: rest, false => some ({ b with stack := rest }.put (.array items.reverse))
  | .object members _ :: rest, true => some ({ b with stack := rest }.put (.object members.reverse))
  | _, _ => none

/-- How much of a value is looked at. -/
inductive Extent where
  | whole
  | outermost
  deriving DecidableEq

/-- Opens an array or object. -/
def Building.descend (extent : Extent) (b : Building) (o : Open) (expected : Expected) : Option Building :=
  if extent = .outermost ∨ b.stack.length < depthLimit then some { b with stack := o :: b.stack, expected }
  else none

/-- Takes up the key of a member. -/
def Building.putKey (b : Building) (key : String) : Option Building :=
  match b.stack with
  | .object members _ :: rest => some ⟨.object members (some key) :: rest, .colon, none⟩
  | _ => none

/-- The effect of a token. -/
def Building.step (extent : Extent) (b : Building) (t : Token) : Option Building :=
  let startsValue := b.expected = .value ∨ b.expected = .valueOrClose
  let startsKey := b.expected = .key ∨ b.expected = .keyOrClose
  match t with
  | .scalar (.text s) => if startsValue then some (b.put (.text s)) else if startsKey then b.putKey s else none
  | .scalar v => if startsValue then some (b.put v) else none
  | .flawed isText =>
    match extent with
    | .whole => none
    | .outermost =>
      if startsValue then some (b.put .null)
      else if startsKey ∧ isText ∧ 1 < b.stack.length then b.putKey ""
      else none
  | .openArray => if startsValue then b.descend extent (.array []) .valueOrClose else none
  | .openObject => if startsValue then b.descend extent (.object [] none) .keyOrClose else none
  | .closeArray => if b.expected = .valueOrClose ∨ b.expected = .separator then b.close false else none
  | .closeObject => if b.expected = .keyOrClose ∨ b.expected = .separator then b.close true else none
  | .colon => if b.expected = .colon then some { b with expected := .value } else none
  | .comma =>
    if b.expected = .separator then
      match b.stack with
      | .array _ :: _ => some { b with expected := .value }
      | .object .. :: _ => some { b with expected := .key }
      | [] => none
    else none

/-- The value of a text of which this much is looked at. -/
def read? (extent : Extent) (text : String) : Option Json := do
  let tokens ← tokens? text
  let built ← tokens.foldlM (Building.step extent) ⟨[], .value, none⟩
  built.result

/-- The value of a text, if it is one JSON value. -/
def parse? (text : String) : Option Json :=
  read? .whole text

/-- The value of a text for a reader that looks at the outermost array or object only. Scalars in it
that lack a value are null, what is further inside may be nested at will, and only the keys of the
outermost object have to be text. -/
def parseOutermost? (text : String) : Option Json :=
  read? .outermost text

end ShaderAnalysis.Json
