import ShaderAnalysis.Lexical.ByteClass
import ShaderAnalysis.Text.Span

/-!
# Bracket regions

The regions that the parentheses and braces of a text enclose, as an arena: region 0 is the whole
text, the others follow in the order of their openers. Brackets in strings, character literals and
comments do not count.

A closer that does not fit the innermost pending opener closes the nearest pending opener of its own
kind and seals the openers in between where it stands; a closer without such an opener counts for
nothing. What is still pending at the end runs to the end of the text.
-/

namespace ShaderAnalysis

/-- What encloses a region: nothing, parentheses or braces. -/
inductive BracketKind where
  | root
  | paren
  | brace
  deriving DecidableEq, Repr, Inhabited

namespace BracketKind

/-- The kind of region that byte `b` opens. -/
def openedBy? (b : UInt8) : Option BracketKind :=
  if b = 40 then some .paren else if b = 123 then some .brace else none

/-- The kind of region that byte `b` closes. -/
def closedBy? (b : UInt8) : Option BracketKind :=
  if b = 41 then some .paren else if b = 125 then some .brace else none

end BracketKind

/-- A region, from its opener to just past its closer. Parent and children are indices in the
arena. -/
structure Region where
  start : Nat
  stop : Nat
  kind : BracketKind
  closed : Bool
  parent : Option Nat
  children : List Nat
  deriving DecidableEq, Repr, Inhabited

namespace Region

/-- The region with its brackets. -/
def span (r : Region) : Span :=
  .between r.start r.stop

/-- The region without its brackets. -/
def inner (r : Region) : Span :=
  match r.kind with
  | .root => r.span
  | .paren | .brace => .between (r.start + 1) (if r.closed then r.stop - 1 else r.stop)

/-- Whether `offset` lies between the opener and the end. -/
def encloses (r : Region) (offset : Nat) : Bool :=
  r.start < offset && offset < r.stop

end Region

/-- The regions of a text in the order of their openers. -/
structure Brackets where
  regions : Array Region
  deriving DecidableEq, Repr, Inhabited

namespace Brackets

/-- Regions found so far, and the pending ones, innermost first. -/
structure Pending where
  regions : Array Region
  stack : List Nat
  deriving Repr

namespace Pending

/-- Nothing but the root of a text of `size` bytes. -/
def initial (size : Nat) : Pending :=
  ⟨#[⟨0, size, .root, true, none, []⟩], []⟩

/-- A new region that opens at `offset`, for now up to the end of the text. -/
def enter (p : Pending) (size offset : Nat) (kind : BracketKind) : Pending :=
  let id := p.regions.size
  let parent := p.stack.headD 0
  let regions := p.regions.modify parent fun r => { r with children := r.children ++ [id] }
  ⟨regions.push ⟨offset, size, kind, false, some parent, []⟩, id :: p.stack⟩

/-- Ends region `id` at `stop`. -/
def finish (regions : Array Region) (id stop : Nat) (closed : Bool) : Array Region :=
  regions.modify id fun r => { r with stop, closed }

/-- The effect of a closer of this kind at `offset`. -/
def leave (p : Pending) (offset : Nat) (kind : BracketKind) : Pending :=
  let (skipped, pending) := p.stack.span fun id => p.regions[id]?.all (·.kind != kind)
  match pending with
  | [] => p
  | matched :: stack =>
    let sealed := skipped.foldl (fun regions id => finish regions id offset false) p.regions
    ⟨finish sealed matched (offset + 1) true, stack⟩

/-- The effect of byte `b` of class `c` at `offset`. -/
def step (size : Nat) (p : Pending) (offset : Nat) (b : UInt8) (c : ByteClass) : Pending :=
  if c = .code then
    match BracketKind.openedBy? b, BracketKind.closedBy? b with
    | some kind, _ => p.enter size offset kind
    | none, some kind => p.leave offset kind
    | none, none => p
  else
    p

/-- The effect of bytes from `offset` on. -/
def run (size : Nat) (p : Pending) (offset : Nat) : List (UInt8 × ByteClass) → Pending
  | [] => p
  | (b, c) :: rest => run size (p.step size offset b c) (offset + 1) rest

end Pending

/-- The regions of bytes with their classes. -/
def ofBytes (bs : List (UInt8 × ByteClass)) : Brackets :=
  ⟨((Pending.initial bs.length).run bs.length 0 bs).regions⟩

/-- The regions of a text whose bytes have these classes. -/
def ofClasses (text : String) (classes : List ByteClass) : Brackets :=
  ofBytes ((Text.bytes text).zip classes)

/-- The regions of a text. -/
def ofText (text : String) : Brackets :=
  ofClasses text (Lexical.classes text)

/-- The regions of a text, unless the scan is cancelled, and the number of questions asked by
then. -/
def scan (oracle : Oracle) (asked : Nat) (text : String) : Except Cancelled (Brackets × Nat) := do
  let (classes, asked) ← Lexical.scan oracle asked text
  return (ofClasses text classes, asked)

/-- The number of bracketed regions; the root does not count. -/
def size (t : Brackets) : Nat :=
  t.regions.size - 1

def isEmpty (t : Brackets) : Bool :=
  t.size == 0

/-- The region that starts at `offset`, of those from index `low` up to `high`, which are in the order of their
openers: the one in the middle tells in which half to go on. -/
def startingWithin? (t : Brackets) (offset low high : Nat) : Option Region :=
  if low < high then
    let middle := low + (high - low) / 2
    match t.regions[middle]? with
    | none => none
    | some r =>
      if r.start = offset then some r
      else if r.start < offset then t.startingWithin? offset (middle + 1) high
      else t.startingWithin? offset low middle
  else
    none
termination_by high - low

/-- The region whose opener stands at `offset`. -/
def startingAt? (t : Brackets) (offset : Nat) : Option Region :=
  t.startingWithin? offset 1 t.regions.size

/-- Whether region `id` exists and encloses `offset`. -/
def encloses (t : Brackets) (offset id : Nat) : Bool :=
  t.regions[id]?.any (·.encloses offset)

/-- The child of region `id` that encloses `offset`. -/
def childAround? (t : Brackets) (offset id : Nat) : Option Nat :=
  ((t.regions[id]?.map (·.children)).getD []).find? fun child =>
    id < child && child < t.regions.size && t.encloses offset child

theorem childAround?_bounds {t : Brackets} {offset id child : Nat}
    (h : t.childAround? offset id = some child) : id < child ∧ child < t.regions.size := by
  have := List.find?_some h
  simp only [Bool.and_eq_true, decide_eq_true_eq] at this
  exact this.1

/-- The innermost region around `offset` at or below region `id`. -/
def innermostBelow (t : Brackets) (offset id : Nat) : Nat :=
  match _h : t.childAround? offset id with
  | none => id
  | some child => t.innermostBelow offset child
termination_by t.regions.size - id
decreasing_by
  have := childAround?_bounds (by assumption)
  omega

/-- The innermost region around `offset`, by index. An opener is not inside its own region. -/
def innermostAt (t : Brackets) (offset : Nat) : Nat :=
  t.innermostBelow offset 0

/-- The nearest region in braces at or above region `id`. -/
def braceAbove? (t : Brackets) (id : Nat) : Option Nat :=
  match t.regions[id]? with
  | none => none
  | some r =>
    if r.kind = .brace then some id
    else
      match r.parent with
      | none => none
      | some parent => if parent < id then t.braceAbove? parent else none

/-- The innermost region in braces around `offset`. -/
def enclosingBrace? (t : Brackets) (offset : Nat) : Option Nat :=
  t.braceAbove? (t.innermostAt offset)

/-- The span of the braces that open at `offset`, with and without them. -/
def braceAt? (t : Brackets) (offset : Nat) : Option (Span × Span) := do
  let r ← t.startingAt? offset
  guard (r.kind = .brace)
  return (r.span, r.inner)

/-- Whether no braces enclose `offset`. -/
def isTopLevel (t : Brackets) (offset : Nat) : Bool :=
  (t.enclosingBrace? offset).isNone

end Brackets

end ShaderAnalysis
