import ShaderAnalysis.Text.Span

/-!
# Cutting text at byte offsets

Offsets count the bytes of the UTF-8 form. An offset is a boundary if it does not fall inside a
character; text can only be cut there.
-/

namespace ShaderAnalysis.Text

/-- The bytes of the UTF-8 form. -/
def bytes (s : String) : List UInt8 :=
  s.toByteArray.data.toList

/-- Whether `n` is an offset of `s` that falls between two characters, or at an end. -/
def isBoundary (s : String) (n : Nat) : Bool :=
  String.Pos.Raw.isValid s ⟨n⟩

/-- The last boundary at or before `n`. -/
def floorBoundary (s : String) : Nat → Nat
  | 0 => 0
  | n + 1 => if isBoundary s (n + 1) then n + 1 else floorBoundary s n

/-- The first boundary at or after `n`, looking at most `fuel` bytes ahead. -/
def ceilBoundaryWithin (s : String) : Nat → Nat → Nat
  | 0, n => n
  | fuel + 1, n => if isBoundary s n then n else ceilBoundaryWithin s fuel (n + 1)

/-- The first boundary at or after `n`; a character has at most four bytes. -/
def ceilBoundary (s : String) (n : Nat) : Nat :=
  ceilBoundaryWithin s 4 n

/-- The text from byte `a` to byte `b`, if both are boundaries in this order. -/
def slice? (s : String) (a b : Nat) : Option String :=
  if h : a ≤ b ∧ (⟨a⟩ : String.Pos.Raw).IsValid s ∧ (⟨b⟩ : String.Pos.Raw).IsValid s then
    some (s.extract ⟨⟨a⟩, h.2.1⟩ ⟨⟨b⟩, h.2.2⟩)
  else
    none

/-- The text that a span covers; empty if an end falls inside a character or past the text. -/
def slice (s : String) (r : Span) : String :=
  (slice? s r.start r.stop).getD ""

/-- The text before the last boundary at or before `n`. -/
def upTo (s : String) (n : Nat) : String :=
  (slice? s 0 (floorBoundary s (min n s.utf8ByteSize))).getD ""

/-- The number of UTF-16 code units of a character. -/
def units16 (c : Char) : Nat :=
  if c.toNat < 0x10000 then 1 else 2

/-- The number of UTF-16 code units of a text. -/
def length16 : List Char → Nat
  | [] => 0
  | c :: cs => units16 c + length16 cs

/-- The number of bytes of the UTF-8 form of characters. -/
def length8 : List Char → Nat
  | [] => 0
  | c :: cs => c.utf8Size + length8 cs

theorem isBoundary_iff {s : String} {n : Nat} :
    isBoundary s n = true ↔ (⟨n⟩ : String.Pos.Raw).IsValid s :=
  String.Pos.Raw.isValid_eq_true_iff

@[simp] theorem isBoundary_zero (s : String) : isBoundary s 0 = true :=
  isBoundary_iff.2 String.Pos.Raw.isValid_zero

theorem isBoundary_floorBoundary (s : String) (n : Nat) : isBoundary s (floorBoundary s n) = true := by
  induction n with
  | zero => exact isBoundary_zero s
  | succ n ih =>
    rw [floorBoundary]
    split
    · assumption
    · exact ih

theorem floorBoundary_le (s : String) (n : Nat) : floorBoundary s n ≤ n := by
  induction n with
  | zero => exact Nat.le_refl 0
  | succ n ih =>
    rw [floorBoundary]
    split <;> omega

end ShaderAnalysis.Text
