import ShaderAnalysis.Outline.Symbol

/-!
# Outlines

The outline of a text is a forest of symbols, stored as an arena that only grows: the identity of a
symbol is its index, parents come before their children. A symbol that is put below another one is
clamped into it, and the name of a symbol into the symbol.
-/

namespace ShaderAnalysis

/-- A symbol with its place in the forest. -/
structure OutlineNode where
  symbol : Symbol
  parent : Option Nat
  children : List Nat
  deriving DecidableEq, Repr, Inhabited

/-- A forest of symbols. -/
structure Outline where
  nodes : Array OutlineNode
  roots : List Nat
  deriving DecidableEq, Repr

namespace Outline

/-- The outline without symbols. -/
def empty : Outline :=
  ⟨#[], []⟩

instance : Inhabited Outline := ⟨empty⟩

instance : EmptyCollection Outline := ⟨empty⟩

/-- The number of symbols. -/
def size (t : Outline) : Nat :=
  t.nodes.size

/-- The symbol with this index. -/
def get? (t : Outline) (id : Nat) : Option Symbol :=
  t.nodes[id]?.map (·.symbol)

/-- The symbol above the one with this index. -/
def parent? (t : Outline) (id : Nat) : Option Nat :=
  t.nodes[id]?.bind (·.parent)

/-- The symbols right below the one with this index. -/
def children (t : Outline) (id : Nat) : List Nat :=
  (t.nodes[id]?.map (·.children)).getD []

/-- The symbols right below `parent`, or the roots. -/
def level (t : Outline) : Option Nat → List Nat
  | some id => t.children id
  | none => t.roots

/-- The symbol, clamped into what it is put below. -/
def fit (t : Outline) (parent : Option Nat) (s : Symbol) : Symbol :=
  let span := match parent.bind t.get? with
    | some above => s.span.clampTo above.span
    | none => s.span
  { s with span, selection := s.selection.clampTo span }

/-- Puts a symbol below `parent`, or makes it a root; also returns its index. -/
def push (t : Outline) (parent : Option Nat) (s : Symbol) : Outline × Nat :=
  let id := t.nodes.size
  let node : OutlineNode := ⟨t.fit parent s, parent, []⟩
  match parent with
  | some above =>
    let nodes := t.nodes.modify above fun n => { n with children := n.children ++ [id] }
    ({ t with nodes := nodes.push node }, id)
  | none => ({ nodes := t.nodes.push node, roots := t.roots ++ [id] }, id)

/-- Puts a symbol below `parent`, or makes it a root. -/
def add (t : Outline) (parent : Option Nat) (s : Symbol) : Outline :=
  (t.push parent s).1

/-- Gives a symbol another detail. -/
def setDetail (t : Outline) (id : Nat) (detail : String) : Outline :=
  { t with nodes := t.nodes.modify id fun n => { n with symbol.detail := detail } }

/-- The children that come later in the arena; these are all of them. -/
def descendants (t : Outline) (id : Nat) : List Nat :=
  (t.children id).filter fun child => id < child && child < t.size

theorem mem_descendants {t : Outline} {id child : Nat} (h : child ∈ t.descendants id) :
    id < child ∧ child < t.size := by
  have := (List.mem_filter.1 h).2
  simpa using this

/-- A symbol and all symbols below it, from the top and in order. -/
def preorderBelow (t : Outline) (id : Nat) : List Nat :=
  id :: ((t.descendants id).attach.map fun child => t.preorderBelow child.1).flatten
termination_by t.size - id
decreasing_by
  have := mem_descendants child.2
  omega

theorem preorderBelow_eq (t : Outline) (id : Nat) :
    t.preorderBelow id = id :: (t.descendants id).flatMap t.preorderBelow := by
  rw [preorderBelow, List.attach_map_val (f := t.preorderBelow), List.flatMap_def]

/-- The symbols that a stack of symbols leads to: the one on top, then what its children and the rest of the
stack lead to. -/
def walk (t : Outline) : List Nat → List Nat
  | [] => []
  | id :: stack => id :: t.walk (t.descendants id ++ stack)
termination_by stack => (stack.flatMap t.preorderBelow).length
decreasing_by
  simp only [List.flatMap_append, List.flatMap_cons, preorderBelow_eq t id, List.length_append, List.length_cons]
  omega

/-- All symbols, parents before children and siblings in order. -/
def preorder (t : Outline) : List Nat :=
  t.walk t.roots

/-- The stack leads to everything below its symbols, one symbol after the other. -/
theorem walk_eq_flatMap (t : Outline) (stack : List Nat) : t.walk stack = stack.flatMap t.preorderBelow := by
  fun_induction walk t stack with
  | case1 => rfl
  | case2 id stack ih =>
    rw [ih, List.flatMap_append, List.flatMap_cons, preorderBelow_eq t id, List.cons_append]

theorem preorder_eq_flatMap (t : Outline) : t.preorder = t.roots.flatMap t.preorderBelow :=
  t.walk_eq_flatMap t.roots

/-- Whether the symbol has this name. -/
def isNamed (t : Outline) (name : String) (id : Nat) : Bool :=
  (t.get? id).any (·.name == name)

/-- The first symbol in preorder with this name. -/
def find? (t : Outline) (name : String) : Option Nat :=
  t.preorder.find? (t.isNamed name)

/-- All symbols with this name, in preorder. -/
def findAll (t : Outline) (name : String) : List Nat :=
  t.preorder.filter (t.isNamed name)

/-- The first symbol with this name right below `parent`, or among the roots. -/
def findChild? (t : Outline) (parent : Option Nat) (name : String) : Option Nat :=
  (t.level parent).find? (t.isNamed name)

/-- Whether a cursor at `offset` is at the symbol. -/
def touches (t : Outline) (offset id : Nat) : Bool :=
  (t.get? id).any (·.span.touches offset)

/-- The symbols that a cursor at `offset` is at, from `id` inwards. -/
def stackFrom (t : Outline) (offset id : Nat) : List Nat :=
  match _h : (t.descendants id).find? (t.touches offset) with
  | none => [id]
  | some child => id :: t.stackFrom offset child
termination_by t.size - id
decreasing_by
  have := mem_descendants (List.mem_of_find?_eq_some (by assumption))
  omega

/-- The symbols that a cursor at `offset` is at, outermost first. -/
def stackAt (t : Outline) (offset : Nat) : List Nat :=
  match t.roots.find? (t.touches offset) with
  | none => []
  | some root => t.stackFrom offset root

/-- The symbols above one, nearest first. -/
def ancestors (t : Outline) (id : Nat) : List Nat :=
  match t.parent? id with
  | none => []
  | some above => if above < id then above :: t.ancestors above else []

/-- Whether a symbol right below `parent` already records this declaration. -/
def records (t : Outline) (parent : Option Nat) (name : String) (kind : SymbolKind) (selection : Span) : Bool :=
  (t.level parent).any fun id =>
    (t.get? id).any fun s => s.kind == kind && s.name == name && s.selection == selection

/-- Whether a cursor at `offset` is at a child of the symbol. -/
def childTouches (t : Outline) (id offset : Nat) : Bool :=
  (t.children id).any (t.touches offset)

end Outline

end ShaderAnalysis
