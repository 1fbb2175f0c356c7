import ShaderAnalysis.Text.Digits
import ShaderAnalysis.Text.Words

/-!
# Tables written as text

Large tables are written as rows of words between blanks, with code points in hexadecimal digits. A
table that gives each code point a value lists the code points at which the value changes.
-/

namespace ShaderAnalysis.Text.Table

/-- The number that a word writes; a word that is none counts as zero. -/
def number (word : List Char) : Nat :=
  (hexNumber? word).getD 0

/-- The numbers of a table. -/
def numbers (table : String) : List Nat :=
  (words table.toList).map number

/-- The entries of a table whose words are a code point and, behind a colon, a value. -/
def entries {α : Type} (value : List Char → α) (table : String) : List (Nat × α) :=
  (words table.toList).filterMap fun word =>
    (splitOnce ':' word).map fun (start, rest) => (number start, value rest)

/-- The value of a code point: that of the last entry at or before it. -/
def valueAt {α : Type} (entries : List (Nat × α)) (missing : α) (n : Nat) : α :=
  ((entries.takeWhile (·.1 ≤ n)).getLast?).elim missing (·.2)

end ShaderAnalysis.Text.Table
