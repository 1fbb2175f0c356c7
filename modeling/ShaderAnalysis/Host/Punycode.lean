/-!
# Labels in ASCII

A label with characters beyond ASCII is written as its ASCII characters, a hyphen, and a row of
numbers that say which character comes in where. The numbers are written in base 36, the lowest
digit first; how large the last digit of a number can be depends on a bias that follows the size of
the numbers before it.
-/

namespace ShaderAnalysis.HostName.Punycode

/-- The digit of a value below 36. -/
def digit (n : Nat) : Char :=
  Char.ofNat (if n < 26 then 97 + n else 22 + n)

/-- The value of a digit. -/
def digit? (c : Char) : Option Nat :=
  if c.isLower then some (c.toNat - 97)
  else if c.isUpper then some (c.toNat - 65)
  else if c.isDigit then some (c.toNat - 22)
  else none

theorem digit?_digit {n : Nat} (h : n < 36) : digit? (digit n) = some n := by
  have all : ∀ k ∈ List.range 36, digit? (digit k) = some k := by decide
  exact all n (List.mem_range.2 h)

/-- The value from which on a digit at place `k` is not the last one of its number. -/
def threshold (bias k : Nat) : Nat :=
  min (max (36 * (k + 1) - bias) 1) 26

theorem one_le_threshold (bias k : Nat) : 1 ≤ threshold bias k := by
  unfold threshold; omega

theorem threshold_le (bias k : Nat) : threshold bias k ≤ 26 := by
  unfold threshold; omega

/-- How often a number is divided by 35 until it is small, and what is left of it. -/
def scaleDown (n : Nat) : Nat × Nat :=
  if 455 < n then
    let (times, rest) := scaleDown (n / 35)
    (times + 1, rest)
  else
    (0, n)
termination_by n

/-- The bias behind a number; `count` characters are in place then. -/
def nextBias (delta count : Nat) (isFirst : Bool) : Nat :=
  let delta := if isFirst then delta / 700 else delta / 2
  let (times, rest) := scaleDown (delta + delta / count)
  36 * times + 36 * rest / (rest + 38)

/-! ## Writing -/

/-- The digits of a number from place `k` on. -/
def digitsFrom (bias k n : Nat) : List Char :=
  let t := threshold bias k
  if n < t then [digit n]
  else digit (t + (n - t) % (36 - t)) :: digitsFrom bias (k + 1) ((n - t) / (36 - t))
termination_by n
decreasing_by
  have := one_le_threshold bias k
  exact Nat.lt_of_le_of_lt (Nat.div_le_self _ _) (by omega)

/-- What is written so far, how many characters are in place, the number that comes next, and the
bias. -/
structure Writing where
  output : List Char
  count : Nat
  delta : Nat
  bias : Nat

/-- Passes over a character while those with code point `n` are put in place. -/
def Writing.pass (basic n : Nat) (w : Writing) (c : Char) : Writing :=
  if c.toNat < n then { w with delta := w.delta + 1 }
  else if c.toNat = n then
    ⟨w.output ++ digitsFrom w.bias 0 w.delta, w.count + 1, 0, nextBias w.delta (w.count + 1) (w.count = basic)⟩
  else w

/-- Puts the characters with each of the code points in place; all below `start` are there. -/
def Writing.putAll (label : List Char) (basic start : Nat) (w : Writing) : List Nat → Writing
  | [] => w
  | n :: rest =>
    let w := label.foldl (Writing.pass basic n) { w with delta := w.delta + (n - start) * (w.count + 1) }
    Writing.putAll label basic (n + 1) { w with delta := w.delta + 1 } rest

/-- The code points of a label beyond ASCII, in order and once each. -/
def codePoints (label : List Char) : List Nat :=
  ((label.map Char.toNat).filter (128 ≤ ·)).mergeSort.eraseReps

/-- A label in ASCII. -/
def encode (label : List Char) : List Char :=
  let basic := label.filter (·.toNat < 128)
  let start := if basic.isEmpty then [] else basic ++ ['-']
  (Writing.putAll label basic.length 128 ⟨start, basic.length, 0, 72⟩ (codePoints label)).output

/-! ## Reading -/

/-- Adds the number at the start, whose digits from place `k` on count `weight` each, to `n`. -/
def readNumber? (bias k weight n : Nat) : List Char → Option (Nat × List Char)
  | [] => none
  | c :: rest =>
    match digit? c with
    | none => none
    | some d =>
      let t := threshold bias k
      if d < t then some (n + d * weight, rest)
      else readNumber? bias (k + 1) (weight * (36 - t)) (n + d * weight) rest

theorem length_readNumber? {bias k weight n : Nat} {cs : List Char} {r : Nat × List Char}
    (h : readNumber? bias k weight n cs = some r) : r.2.length < cs.length := by
  induction cs generalizing k weight n with
  | nil => simp [readNumber?] at h
  | cons c rest ih =>
    unfold readNumber? at h
    split at h
    · simp at h
    · simp only at h
      split at h
      · obtain rfl := Option.some.inj h
        simp
      · have := ih h
        simp only [List.length_cons]
        omega

/-- Puts the characters that the numbers stand for into the label; the next one has a code point of at
least `n` and comes in at place `i` or later. -/
def insertAll (label : List Char) (n i bias : Nat) (cs : List Char) : Option (List Char) :=
  if cs.isEmpty then some label
  else
    match _h : readNumber? bias 0 1 i cs with
    | none => none
    | some (j, rest) =>
      let count := label.length + 1
      let code := n + j / count
      if code.isValidChar then
        insertAll (label.insertIdx (j % count) (Char.ofNat code)) code (j % count + 1)
          (nextBias (j - i) count (i = 0)) rest
      else
        none
termination_by cs.length
decreasing_by exact length_readNumber? (by assumption)

/-- The label that is written so; there is no hyphen if there are no ASCII characters. -/
def decode? (cs : List Char) : Option (List Char) :=
  let numbers := (cs.reverse.takeWhile (· != '-')).reverse
  match cs.take (cs.length - numbers.length) with
  | [] => insertAll [] 128 0 72 numbers
  | [_] => none
  | basic => if basic.all (·.toNat < 128) then insertAll basic.dropLast 128 0 72 numbers else none

end ShaderAnalysis.HostName.Punycode
