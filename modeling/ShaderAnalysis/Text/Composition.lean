import ShaderAnalysis.Text.Property
import ShaderAnalysis.Text.Table.Composition

/-!
# The composed form of a text

Some characters are the same as a row of others: a letter with an accent, a syllable of Hangul. In
the composed form of a text such characters are taken apart, marks that can change places are put in
the order of their classes, and what can be composed is put together again. The text must not hold
characters that are the same as one other character.
-/

namespace ShaderAnalysis.Text

/-- The combining class of a character. -/
def combiningClass (c : Char) : Nat :=
  if c.toNat < 128 then 0 else Table.valueAt combiningClasses 0 c.toNat

/-- Whether the character is a mark. -/
def isMark (c : Char) : Bool :=
  128 ≤ c.toNat && inBounds markBounds c.toNat

/-! ## Pairs -/

/-- A character that is the same as two others in a row. -/
structure Composed where
  first : Nat
  second : Nat
  whole : Nat
  deriving DecidableEq, Repr

/-- The numbers in threes as composed characters. -/
def composedOfThrees : List Nat → List Composed
  | first :: second :: whole :: rest => ⟨first, second, whole⟩ :: composedOfThrees rest
  | _ => []

/-- The composed characters, but for the syllables of Hangul. -/
def compositions : List Composed :=
  composedOfThrees compositionTable

/-- The syllable that follows a lead and a vowel of Hangul, or a syllable without a tail and a tail. -/
def composeHangul? (first second : Nat) : Option Nat :=
  if 0x1100 ≤ first ∧ first < 0x1113 ∧ 0x1161 ≤ second ∧ second < 0x1176 then
    some (0xAC00 + ((first - 0x1100) * 21 + (second - 0x1161)) * 28)
  else if 0xAC00 ≤ first ∧ first < 0xD7A4 ∧ (first - 0xAC00) % 28 = 0 ∧
      0x11A8 ≤ second ∧ second < 0x11C3 then
    some (first + (second - 0x11A7))
  else
    none

/-- The character that is the same as these two. -/
def compose? (first second : Char) : Option Char :=
  match composeHangul? first.toNat second.toNat with
  | some n => some (Char.ofNat n)
  | none =>
    (compositions.find? fun p => p.first == first.toNat && p.second == second.toNat).map fun p =>
      Char.ofNat p.whole

/-- The two or three letters of a syllable of Hangul. -/
def decomposeHangul (syllable : Nat) : List Char :=
  let n := syllable - 0xAC00
  let tail := if n % 28 = 0 then [] else [Char.ofNat (0x11A7 + n % 28)]
  Char.ofNat (0x1100 + n / 588) :: Char.ofNat (0x1161 + n % 588 / 28) :: tail

/-- How often a part of a composed character can be a composed character itself. -/
def compositionDepth : Nat := 4

/-- The characters that a character is composed of, taken apart at most `depth` times. -/
def decomposeWithin : Nat → Char → List Char
  | 0, c => [c]
  | depth + 1, c =>
    if 0xAC00 ≤ c.toNat ∧ c.toNat < 0xD7A4 then decomposeHangul c.toNat
    else
      match compositions.find? (·.whole == c.toNat) with
      | some p => decomposeWithin depth (Char.ofNat p.first) ++ [Char.ofNat p.second]
      | none => [c]

/-- The characters that a character is composed of. -/
def decompose (c : Char) : List Char :=
  if c.toNat < 128 then [c] else decomposeWithin compositionDepth c

/-! ## Order -/

/-- Puts a character in front of a row that is in order: it moves behind marks of lower class. -/
def insertMark (c : Char) : List Char → List Char
  | [] => [c]
  | d :: rest =>
    if 0 < combiningClass d ∧ combiningClass d < combiningClass c then d :: insertMark c rest
    else c :: d :: rest

/-- The characters with neighbouring marks in the order of their classes. -/
def orderMarks (cs : List Char) : List Char :=
  cs.foldr insertMark []

/-! ## Composition -/

/-- The last character that is no mark, with the marks behind it that are not part of it, last first. -/
structure Cluster where
  base : Char
  marks : List Char

/-- The characters of a cluster. -/
def Cluster.chars (k : Cluster) : List Char :=
  k.base :: k.marks.reverse

/-- Whether nothing stands between the base of a cluster and a character of this class behind it. -/
def Cluster.reaches (k : Cluster) (c : Char) : Bool :=
  match k.marks with
  | [] => true
  | mark :: _ => combiningClass mark < combiningClass c

/-- Puts the characters together, after the cluster `k`. -/
def composeFrom (k : Cluster) : List Char → List Char
  | [] => k.chars
  | c :: cs =>
    match if k.reaches c then compose? k.base c else none with
    | some whole => composeFrom ⟨whole, k.marks⟩ cs
    | none =>
      if combiningClass c = 0 then k.chars ++ composeFrom ⟨c, []⟩ cs
      else composeFrom { k with marks := c :: k.marks } cs

/-- The characters with those put together that can be composed. -/
def composeAll (cs : List Char) : List Char :=
  match cs.dropWhile fun c => combiningClass c != 0 with
  | [] => cs
  | c :: rest => cs.takeWhile (fun c => combiningClass c != 0) ++ composeFrom ⟨c, []⟩ rest

/-- The composed form of a text. -/
def composed (cs : List Char) : List Char :=
  composeAll (orderMarks (cs.flatMap decompose))

end ShaderAnalysis.Text
