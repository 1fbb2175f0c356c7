import ShaderAnalysis.Text.Span

/-!
# Positions

Clients count lines from zero and, within a line, UTF-16 code units.
-/

namespace ShaderAnalysis

/-- A place in a document as clients see it. -/
structure Position where
  line : Nat
  character : Nat
  deriving DecidableEq, Repr, Inhabited

/-- The places from `start` up to `stop`. -/
structure PositionRange where
  start : Position
  stop : Position
  deriving DecidableEq, Repr, Inhabited

namespace Position

/-- Whether `p` comes before `q`. -/
def precedes (p q : Position) : Bool :=
  p.line < q.line || (p.line == q.line && p.character < q.character)

end Position

end ShaderAnalysis
