/-!
# Spans of text

A span is a half-open range of byte offsets. Its ends are in order by construction, so lengths need
no saturation, and clamping a span to another one always gives a span.
-/

namespace ShaderAnalysis

/-- The bytes from `start` up to, but not including, `stop`. -/
@[ext] structure Span where
  start : Nat
  stop : Nat
  start_le_stop : start ≤ stop := by omega
  deriving DecidableEq, Repr

namespace Span

instance : Inhabited Span := ⟨⟨0, 0, Nat.le_refl 0⟩⟩

/-- The span from `start` to `stop`, empty if `stop` comes first. -/
def between (start stop : Nat) : Span :=
  ⟨start, max start stop, Nat.le_max_left start stop⟩

/-- The number of bytes covered. -/
def length (s : Span) : Nat :=
  s.stop - s.start

def isEmpty (s : Span) : Bool :=
  s.start == s.stop

/-- Whether a cursor at `offset` is at the span: both ends count, so that a cursor right behind the
last character is still at it. -/
def touches (s : Span) (offset : Nat) : Bool :=
  s.start ≤ offset && offset ≤ s.stop

/-- Whether every byte of `inner` is one of `s`. -/
def covers (s inner : Span) : Bool :=
  s.start ≤ inner.start && inner.stop ≤ s.stop

/-- The offset nearest to `offset` between `low` and `high`. -/
def clamp (offset low high : Nat) : Nat :=
  max low (min offset high)

/-- `s` shrunk so that it lies inside `outer`. -/
def clampTo (s outer : Span) : Span :=
  let start := clamp s.start outer.start outer.stop
  ⟨start, clamp s.stop start outer.stop, Nat.le_max_left ..⟩

@[simp] theorem start_between (a b : Nat) : (between a b).start = a := rfl

@[simp] theorem stop_between (a b : Nat) : (between a b).stop = max a b := rfl

theorem covers_iff {s inner : Span} :
    s.covers inner = true ↔ s.start ≤ inner.start ∧ inner.stop ≤ s.stop := by
  simp [covers]

theorem touches_iff {s : Span} {offset : Nat} :
    s.touches offset = true ↔ s.start ≤ offset ∧ offset ≤ s.stop := by
  simp [touches]

/-- A clamped span lies inside the span that it was clamped to. -/
theorem covers_clampTo (s outer : Span) : outer.covers (s.clampTo outer) = true := by
  have := outer.start_le_stop
  simp only [covers_iff, clampTo, clamp]
  omega

/-- Clamping changes nothing that already lies inside. -/
theorem clampTo_of_covers {s outer : Span} (h : outer.covers s = true) : s.clampTo outer = s := by
  have := s.start_le_stop
  rw [covers_iff] at h
  ext <;> simp only [clampTo, clamp] <;> omega

end Span

end ShaderAnalysis
