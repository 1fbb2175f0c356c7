import ShaderAnalysis.Text.Property

/-!
# Trimming, splitting and searching

Operations on the characters of a text, without regard to where they stand.
-/

namespace ShaderAnalysis.Text

/-- The characters without the blanks in front. -/
def trimStart (cs : List Char) : List Char :=
  cs.dropWhile isBlank

/-- The characters without those at the end that satisfy `p`. -/
def trimEndWhile (p : Char → Bool) (cs : List Char) : List Char :=
  (cs.reverse.dropWhile p).reverse

/-- The characters without the blanks at the end. -/
def trimEnd (cs : List Char) : List Char :=
  trimEndWhile isBlank cs

/-- The characters without the blanks at either end. -/
def trim (cs : List Char) : List Char :=
  trimEnd (trimStart cs)

/-- The text without the blanks at either end. -/
def trimmed (s : String) : String :=
  String.ofList (trim s.toList)

/-- The pieces between the characters that satisfy `p`; one more than there are such characters. -/
def splitWhere (p : Char → Bool) : List Char → List (List Char)
  | [] => [[]]
  | c :: cs =>
    if p c then [] :: splitWhere p cs
    else
      match splitWhere p cs with
      | [] => [[c]]
      | piece :: pieces => (c :: piece) :: pieces

/-- The pieces between line feeds. -/
def splitLines (cs : List Char) : List (List Char) :=
  splitWhere (· == '\n') cs

/-- A piece of a line without one carriage return at its end. -/
def dropReturn (line : List Char) : List Char :=
  if line.getLast? == some '\r' then line.dropLast else line

/-- The lines of a text, each without its line feed and the carriage return before that; a line
feed at the very end starts no further line. -/
def lines (cs : List Char) : List (List Char) :=
  let pieces := splitLines cs
  if pieces.getLast? == some [] then pieces.dropLast.map dropReturn
  else pieces.dropLast.map dropReturn ++ (pieces.getLast?.toList)

/-- The longest pieces without a blank. -/
def words (cs : List Char) : List (List Char) :=
  (splitWhere isBlank cs).filter (!·.isEmpty)

/-- Whether `needle` occurs in the characters. -/
def hasInfix (needle : List Char) : List Char → Bool
  | [] => needle.isEmpty
  | c :: cs => needle.isPrefixOf (c :: cs) || hasInfix needle cs

/-- The characters before and after the first `sep`. -/
def splitOnce (sep : Char) : List Char → Option (List Char × List Char)
  | [] => none
  | c :: cs =>
    if c == sep then some ([], cs)
    else (splitOnce sep cs).map fun (before, after) => (c :: before, after)

/-- Every occurrence of `old`, from the left, replaced by `new`; `old` is not empty. -/
def replaceAll (old new : List Char) (cs : List Char) : List Char :=
  match cs with
  | [] => []
  | c :: rest =>
    if old.isPrefixOf (c :: rest) && !old.isEmpty then
      new ++ replaceAll old new (rest.drop (old.length - 1))
    else
      c :: replaceAll old new rest
termination_by cs.length
decreasing_by all_goals simp only [List.length_drop, List.length_cons]; omega

/-- The texts with a separator between any two. -/
def joinWith (sep : String) (parts : List String) : String :=
  sep.intercalate parts

/-- The text in ASCII lower case; characters of other scripts stay. -/
def asciiLower (s : String) : String :=
  String.ofList (s.toList.map Char.toLower)

/-- The text in ASCII upper case; characters of other scripts stay. -/
def asciiUpper (s : String) : String :=
  String.ofList (s.toList.map Char.toUpper)

/-- Equality of texts when ASCII case is ignored. -/
def sameIgnoringAsciiCase (a b : String) : Bool :=
  asciiLower a == asciiLower b

end ShaderAnalysis.Text
