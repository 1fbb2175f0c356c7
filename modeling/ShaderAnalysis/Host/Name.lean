import ShaderAnalysis.Host.Punycode
import ShaderAnalysis.Host.Table.Mapping
import ShaderAnalysis.Host.Table.Script
import ShaderAnalysis.Text.Composition
import ShaderAnalysis.Text.Lowercase

/-!
# Names of hosts

A host name is a row of labels with dots between them. Names can hold characters of all scripts;
what is sent over a network is ASCII. Several spellings stand for one name: characters are replaced
by their usual forms first, and labels that have characters beyond ASCII are encoded in the end.
Labels that could be mistaken for others are refused: those with a mark in front, with joiners out
of place, or with directions mixed.
-/

namespace ShaderAnalysis.HostName

/-! ## Usual forms -/

/-- Code points in a row that stand for others. -/
structure Image where
  first : Nat
  last : Nat
  chars : List Nat
  inStep : Bool
  deriving Repr

/-- The image that a word of the table gives. -/
def Image.ofWord (word : List Char) : Image :=
  let (codes, chars, inStep) :=
    match Text.splitOnce '=' word with
    | some (codes, chars) => (codes, chars, true)
    | none => ((Text.splitOnce ':' word).getD (word, [])) |> fun (codes, chars) => (codes, chars, false)
  let (first, last) := (Text.splitOnce '-' codes).getD (codes, codes)
  ⟨Text.Table.number first, Text.Table.number last,
    (Text.splitWhere (· == '+') chars).map Text.Table.number, inStep⟩

/-- What the code points stand for that stand for others. -/
def images : List Image :=
  (Text.words imageTable.toList).map Image.ofWord

/-- ASCII characters that no host name contains. -/
def isDenied (c : Char) : Bool :=
  c.toNat ≤ 32 || ['%', '#', '/', ':', '<', '>', '?', '@', '[', '\\', ']', '^', '|', '\x7f'].contains c

/-- What a character becomes, unless it is refused. -/
def image? (c : Char) : Option (List Char) :=
  let n := c.toNat
  if n < 128 then if isDenied c then none else some [c.toLower]
  else if Text.inBounds refusedBounds n then none
  else if Text.inBounds ignoredBounds n then some []
  else
    match images.find? fun i => i.first ≤ n && n ≤ i.last with
    | some i => some (i.chars.map fun m => Char.ofNat (if i.inStep then m + (n - i.first) else m))
    | none => some [Text.lowerChar c]

/-- A name in its usual form. -/
def normalize? (name : List Char) : Option (List Char) :=
  (name.mapM image?).map fun images => Text.composed images.flatten

/-! ## Labels -/

/-- Whether all characters are ASCII. -/
def isAscii (label : List Char) : Bool :=
  label.all (·.toNat < 128)

/-- What an encoded label starts with. -/
def encodedMark : List Char := ['x', 'n', '-', '-']

/-- A label of a name in its usual form with all its characters; an encoded one has to be needed and
to encode the usual form. -/
def decodeLabel? (label : List Char) : Option (List Char) := do
  if encodedMark.isPrefixOf label then
    let decoded ← Punycode.decode? (label.drop encodedMark.length)
    guard (!isAscii decoded && normalize? decoded == some decoded)
    return decoded
  else
    return label

/-- How many characters an encoded label can have at most. -/
def maxLabelLength : Nat := 1000

/-- A label in ASCII. -/
def encodeLabel? (label : List Char) : Option (List Char) :=
  if isAscii label then some label
  else if label.length ≤ maxLabelLength then some (encodedMark ++ Punycode.encode label)
  else none

/-! ## Joiners -/

/-- How a character joins its neighbours. -/
def joining (c : Char) : Joining :=
  Text.Table.valueAt joinings .none c.toNat

/-- The joining of the nearest character that is not passed over. -/
def nextJoining (cs : List Char) : Joining :=
  match cs.dropWhile (joining · = .transparent) with
  | c :: _ => joining c
  | [] => .none

/-- The class of the marks that take the vowel from a consonant. -/
def viramaClass : Nat := 9

/-- Whether joiners are where they make a difference; `before` is what stands in front, the nearest
character first. A joiner follows a mark that takes the vowel from a consonant, and one that keeps
letters apart can also stand between letters that would join. -/
def joinersFit (before : List Char) : List Char → Bool
  | [] => true
  | c :: rest =>
    let followsVirama := before.head?.any (Text.combiningClass · = viramaClass)
    let parts := [.left, .dual].contains (nextJoining before) && [.right, .dual].contains (nextJoining rest)
    (if c == '\u200c' then followsVirama || parts
      else if c == '\u200d' then followsVirama
      else true) && joinersFit (c :: before) rest

/-! ## Directions -/

/-- The direction of a character. -/
def direction (c : Char) : Direction :=
  Text.Table.valueAt directions .neutral c.toNat

/-- Whether the character makes a name one with two directions. -/
def isFromRight (c : Char) : Bool :=
  direction c = .rightToLeft || direction c = .arabicNumber

/-- Whether a label can stand in a name with two directions. -/
def directionsFit (label : List Char) : Bool :=
  let directions := label.map direction
  let last := (directions.reverse.dropWhile (· = .mark)).head?
  match directions.head? with
  | none => true
  | some .rightToLeft =>
    !directions.contains .leftToRight &&
      last.any [.rightToLeft, .europeanNumber, .arabicNumber].contains &&
      !(directions.contains .europeanNumber && directions.contains .arabicNumber)
  | some .leftToRight =>
    !directions.contains .rightToLeft && !directions.contains .arabicNumber &&
      last.any [.leftToRight, .europeanNumber].contains
  | some _ => false

/-! ## Names -/

/-- Whether a label does not begin with a mark and has joiners only in their places. -/
def labelFits (label : List Char) : Bool :=
  !label.head?.any Text.isMark && joinersFit [] label

/-- A host name in ASCII, unless it is refused. -/
def toAscii? (name : List Char) : Option (List Char) := do
  let labels ← (Text.splitWhere (· == '.') (← normalize? name)).mapM decodeLabel?
  guard (labels.all labelFits)
  guard (!(labels.any (·.any isFromRight)) || labels.all directionsFit)
  return ['.'].intercalate (← labels.mapM encodeLabel?)

end ShaderAnalysis.HostName
