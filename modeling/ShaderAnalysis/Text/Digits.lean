/-!
# Numbers in digits

Digits and numbers of bases up to sixteen. Letters of either case are read as digits, and lower-case
ones written.
-/

namespace ShaderAnalysis.Text

/-- The hexadecimal digit of a value below 16. -/
def hexDigit (n : Nat) : Char :=
  Char.ofNat (if n < 10 then 48 + n else 87 + n)

/-- The value of a hexadecimal digit. -/
def hexDigit? (c : Char) : Option Nat :=
  if c.isDigit then some (c.toNat - 48)
  else if 'a' ≤ c ∧ c ≤ 'f' then some (c.toNat - 87)
  else if 'A' ≤ c ∧ c ≤ 'F' then some (c.toNat - 55)
  else none

/-- The number with these digits in a base of at most sixteen. -/
def numberInBase? (base : Nat) (digits : List Char) : Option Nat :=
  digits.foldlM (fun n c => (base * n + ·) <$> (hexDigit? c).filter (· < base)) 0

/-- The number with these hexadecimal digits. -/
def hexNumber? (digits : List Char) : Option Nat :=
  numberInBase? 16 digits

/-- The number with these decimal digits. -/
def decimal (digits : List Char) : Nat :=
  digits.foldl (fun n c => 10 * n + (c.toNat - 48)) 0

/-- A number in hexadecimal digits. -/
def hexText (n : Nat) : String :=
  String.ofList (Nat.toDigits 16 n)

theorem hexDigit?_hexDigit {n : Nat} (h : n < 16) : hexDigit? (hexDigit n) = some n := by
  have all : ∀ k ∈ List.range 16, hexDigit? (hexDigit k) = some k := by decide
  exact all n (List.mem_range.2 h)

end ShaderAnalysis.Text
