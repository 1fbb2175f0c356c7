import ShaderAnalysis.Number.Bounds
import ShaderAnalysis.Text.Words

/-!
# Package versions

Versions are compared segment by segment: numbers as numbers, anything else as text. Segments are
separated by dots, hyphens and plus signs.
-/

namespace ShaderAnalysis.Version

/-- The segments of a version. -/
def segments (version : String) : List (List Char) :=
  Text.splitWhere (fun c => c == '.' || c == '-' || c == '+') version.toList

/-- The value of a segment that is a number of at most 64 bits. -/
def number? (segment : List Char) : Option Nat :=
  if segment.isEmpty || segment.any (!·.isDigit) then none
  else
    let n := segment.foldl (fun n c => 10 * n + (c.toNat - 48)) 0
    if fitsBits 64 n then some n else none

/-- The order of texts by their characters. -/
def compareText : List Char → List Char → Ordering
  | [], [] => .eq
  | [], _ :: _ => .lt
  | _ :: _, [] => .gt
  | c :: cs, d :: ds => (compare c.toNat d.toNat).then (compareText cs ds)

/-- The order of two segments. -/
def compareSegment (a b : List Char) : Ordering :=
  match number? a, number? b with
  | some m, some n => compare m n
  | _, _ => compareText a b

/-- The order of two rows of segments; one that goes on is greater. -/
def compareSegments : List (List Char) → List (List Char) → Ordering
  | [], [] => .eq
  | [], _ :: _ => .lt
  | _ :: _, [] => .gt
  | a :: as, b :: bs => (compareSegment a b).then (compareSegments as bs)

/-- The order of two versions. -/
def compare (a b : String) : Ordering :=
  compareSegments (segments a) (segments b)

end ShaderAnalysis.Version
