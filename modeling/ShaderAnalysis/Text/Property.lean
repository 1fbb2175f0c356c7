import ShaderAnalysis.Text.Table.Property

/-!
# Character properties

The character classes that the analyzer asks for: blanks, word characters, decimal digits and
alphanumeric characters of all scripts, and their ASCII parts. Below 128 each class is a formula,
from 128 on it is read off an inversion list.
-/

namespace ShaderAnalysis.Text

/-- Whether `n` lies in the set with these bounds: it does if an odd number of them is at most `n`. -/
def inBounds (bounds : List Nat) (n : Nat) : Bool :=
  (bounds.takeWhile (· ≤ n)).length % 2 == 1

/-- An ASCII letter, digit or underscore. -/
def isIdentChar (c : Char) : Bool :=
  c.isAlphanum || c == '_'

/-- An ASCII letter or underscore. -/
def isIdentStart (c : Char) : Bool :=
  c.isAlpha || c == '_'

/-- A word character: a letter, mark, decimal digit, connector or join control. -/
def isWordChar (c : Char) : Bool :=
  if c.toNat < 128 then isIdentChar c else inBounds wordBounds c.toNat

/-- A decimal digit of any script. -/
def isDecimalDigit (c : Char) : Bool :=
  if c.toNat < 128 then c.isDigit else inBounds digitBounds c.toNat

/-- An alphabetic character or a number of any script. -/
def isAlphanumeric (c : Char) : Bool :=
  if c.toNat < 128 then c.isAlphanum else inBounds alphanumericBounds c.toNat

/-- A blank: one of the 25 characters with the white-space property. -/
def isBlank (c : Char) : Bool :=
  let n := c.toNat
  (9 ≤ n && n ≤ 13) || n == 32 || n == 0x85 || n == 0xA0 || n == 0x1680 ||
    (0x2000 ≤ n && n ≤ 0x200A) || n == 0x2028 || n == 0x2029 || n == 0x202F || n == 0x205F ||
    n == 0x3000

/-- A space, tab, line feed, form feed or carriage return. -/
def isAsciiBlank (c : Char) : Bool :=
  c == ' ' || c == '\t' || c == '\n' || c == '\x0c' || c == '\r'

/-- A character with a case. -/
def isCased (c : Char) : Bool :=
  if c.toNat < 128 then c.isAlpha else inBounds casedBounds c.toNat

/-- A character that is passed over when looking for the end of a cased word. -/
def isCaseIgnorable (c : Char) : Bool :=
  if c.toNat < 128 then ['\'', '.', ':', '^', '\x60'].contains c
  else inBounds caseIgnorableBounds c.toNat

/-- Two characters that agree when ASCII case is ignored. -/
def eqIgnoringAsciiCase (c d : Char) : Bool :=
  c.toLower == d.toLower

/-- Whether `c` is a form of the ASCII letter `letter` when all case forms are folded together: the
letters s and k have a form outside ASCII, the long s and the Kelvin sign. -/
def foldsToLetter (letter c : Char) : Bool :=
  eqIgnoringAsciiCase letter c ||
    (c == '\u017f' && eqIgnoringAsciiCase letter 's') || (c == '\u212a' && eqIgnoringAsciiCase letter 'k')

theorem isBlank_of_isAsciiBlank {c : Char} (h : isAsciiBlank c = true) : isBlank c = true := by
  simp only [isAsciiBlank, Bool.or_eq_true, beq_iff_eq] at h
  rcases h with (((h | h) | h) | h) | h <;> subst h <;> decide

/-- No blank lies between the first digit and the last small letter. -/
theorem isBlank_of_isIdentChar {c : Char} (ident : isIdentChar c = true) : isBlank c = false := by
  have word : 48 ≤ c.toNat ∧ c.toNat ≤ 122 := by
    delta isIdentChar Char.isAlphanum Char.isAlpha Char.isUpper Char.isLower Char.isDigit at ident
    simp only [Bool.or_eq_true, Bool.and_eq_true, decide_eq_true_eq, beq_iff_eq, ge_iff_le, UInt32.le_iff_toNat_le,
      Char.toNat_val, Char.reduceToNat, ← Char.toNat_inj] at ident
    omega
  simp only [isBlank, Bool.or_eq_false_iff, Bool.and_eq_false_iff, decide_eq_false_iff_not, beq_eq_false_iff_ne]
  omega

end ShaderAnalysis.Text
