import ShaderAnalysis.Text.Property
import ShaderAnalysis.Text.Table.Lowercase

/-!
# Lower case

The full lower-case form of a text. All characters map one by one, but for two: the capital I with
a dot keeps the dot as a mark of its own, and a capital sigma becomes a final sigma at the end of a
cased word.
-/

namespace ShaderAnalysis.Text

/-- The single lower-case image of a character. -/
def lowerChar (c : Char) : Char :=
  if c.toNat < 128 then c.toLower
  else
    match caseRuns.find? fun r =>
        r.first ≤ c.toNat && c.toNat ≤ r.last && (c.toNat - r.first) % r.stride == 0 with
    | some r => Char.ofNat (c.toNat + r.shift).toNat
    | none => c

/-- Whether the nearest character that is not passed over has a case. -/
def startsCased (cs : List Char) : Bool :=
  match cs.dropWhile isCaseIgnorable with
  | [] => false
  | c :: _ => isCased c

/-- The lower-case form of the characters; `before` holds those in front, the nearest first. -/
def lowerFrom (before : List Char) : List Char → List Char
  | [] => []
  | c :: cs =>
    let image :=
      if c == '\u03a3' then
        if startsCased before && !startsCased cs then ['\u03c2'] else ['\u03c3']
      else if c == '\u0130' then ['i', '\u0307']
      else [lowerChar c]
    image ++ lowerFrom (c :: before) cs

/-- The lower-case form of a text. -/
def lower (cs : List Char) : List Char :=
  lowerFrom [] cs

end ShaderAnalysis.Text
