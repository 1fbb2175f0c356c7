import ShaderAnalysis.Text.Digits
import ShaderAnalysis.Text.Words

/-!
# Addresses

Hosts can be named by numbers. An address of four bytes is up to four numbers with dots between them,
of which the last one fills the bytes that are left; numbers can be octal or hexadecimal. An address
of eight groups is written in hexadecimal numbers with colons between them, where one row of zeros
can be left out.
-/

namespace ShaderAnalysis

/-! ## Four bytes -/

/-- An address of four bytes, as one number. -/
structure Ipv4 where
  bits : Nat
  deriving DecidableEq, Repr

namespace Ipv4

/-- The number that a part of an address is. -/
def number? (part : List Char) : Option Nat :=
  match part with
  | [] => none
  | '0' :: 'x' :: digits | '0' :: 'X' :: digits => Text.numberInBase? 16 digits
  | '0' :: d :: digits => Text.numberInBase? 8 (d :: digits)
  | digits => Text.numberInBase? 10 digits

/-- The parts between dots; a dot at the end starts no further part. -/
def parts (cs : List Char) : List (List Char) :=
  let pieces := Text.splitWhere (· == '.') cs
  if 1 < pieces.length ∧ pieces.getLast? = some [] then pieces.dropLast else pieces

/-- Whether a host has to be an address: its last part is a number, or looks like one. -/
def isMeant (cs : List Char) : Bool :=
  match (parts cs).getLast? with
  | some last => (!last.isEmpty && last.all Char.isDigit) || (number? last).isSome
  | none => false

/-- The address with these numbers: bytes, but for the last one. -/
def ofNumbers? (numbers : List Nat) : Option Ipv4 :=
  let bytes := numbers.dropLast
  let left := 4 - bytes.length
  match numbers.getLast? with
  | some last =>
    if bytes.length < 4 ∧ bytes.all (· < 256) ∧ last < Nat.pow 256 left then
      some ⟨bytes.foldl (256 * · + ·) 0 * Nat.pow 256 left + last⟩
    else
      none
  | none => none

/-- The address that the characters write. -/
def read? (cs : List Char) : Option Ipv4 := do
  ofNumbers? (← (parts cs).mapM number?)

/-- The address in the usual form. -/
def text (a : Ipv4) : String :=
  ".".intercalate ([3, 2, 1, 0].map fun place => toString (a.bits / Nat.pow 256 place % 256))

end Ipv4

/-! ## Eight groups -/

/-- An address of eight groups, each a number below 65536. -/
structure Ipv6 where
  groups : List Nat
  deriving DecidableEq, Repr

namespace Ipv6

/-- A byte in decimal digits, without zeros in front. -/
def byte? (part : List Char) : Option Nat :=
  if part.isEmpty || !part.all Char.isDigit || (part.head? == some '0' && part != ['0']) then none
  else some (Text.decimal part) |>.filter (· < 256)

/-- The last two groups, written as four bytes with dots between them. -/
def byteGroups? (cs : List Char) : Option (List Nat) := do
  match ← (Text.splitWhere (· == '.') cs).mapM byte? with
  | [a, b, c, d] => return [256 * a + b, 256 * c + d]
  | _ => none

/-- Groups in their order, and before which of them a row of zeros is left out. -/
structure Groups where
  groups : List Nat
  gap : Option Nat

/-- The digits of the group at the start. -/
def groupDigits (cs : List Char) : List Char :=
  (cs.take 4).takeWhile fun c => (Text.hexDigit? c).isSome

/-- The groups in the characters, behind those in `read`. -/
def readFrom (read : Groups) (cs : List Char) : Option Groups :=
  match cs with
  | [] => some read
  | c :: rest =>
    if 8 ≤ read.groups.length then none
    else if c = ':' then
      if read.gap.isSome then none else readFrom ⟨read.groups ++ [0], some (read.groups.length + 1)⟩ rest
    else
      let digits := groupDigits (c :: rest)
      let next := { read with groups := read.groups ++ [(Text.hexNumber? digits).getD 0] }
      if digits.isEmpty then none
      else
        match _h : (c :: rest).drop digits.length with
        | [] => some next
        | ':' :: d :: after => readFrom next (d :: after)
        | '.' :: _ =>
          if 6 < read.groups.length then none
          else (byteGroups? (c :: rest)).map fun last => { read with groups := read.groups ++ last }
        | _ => none
termination_by cs.length
decreasing_by
  · simp
  · have := congrArg List.length _h
    simp only [List.length_drop, List.length_cons] at this ⊢
    omega

/-- The eight groups, with the zeros that were left out. -/
def Groups.complete? (g : Groups) : Option Ipv6 :=
  match g.gap with
  | some gap =>
    some ⟨g.groups.take gap ++ List.replicate (8 - g.groups.length) 0 ++ g.groups.drop gap⟩
  | none => if g.groups.length = 8 then some ⟨g.groups⟩ else none

/-- The address that the characters write. -/
def read? (cs : List Char) : Option Ipv6 := do
  let groups ←
    match cs with
    | ':' :: ':' :: rest => readFrom ⟨[0], some 1⟩ rest
    | ':' :: _ | [] => none
    | _ => readFrom ⟨[], none⟩ cs
  groups.complete?

/-- The first of the longest rows of zeros of at least two, as its start and its length. -/
def longestZeros (groups : List Nat) : Option (Nat × Nat) :=
  (List.range groups.length).foldl (fun best start =>
    let length := ((groups.drop start).takeWhile (· == 0)).length
    if max 1 (best.elim 1 (·.2)) < length then some (start, length) else best) none

/-- Groups with colons between them. -/
def groupsText (groups : List Nat) : String :=
  ":".intercalate (groups.map Text.hexText)

/-- The address in the usual form. -/
def text (a : Ipv6) : String :=
  match longestZeros a.groups with
  | some (start, length) => groupsText (a.groups.take start) ++ "::" ++ groupsText (a.groups.drop (start + length))
  | none => groupsText a.groups

end Ipv6

end ShaderAnalysis
