import ShaderAnalysis.Outline.Basic
import ShaderAnalysis.Workspace.Table

/-!
# Looking up names

The first symbol of a name is read off an index of all names. The index is built when a name is first
looked up and dropped when a symbol is added; a change of a detail leaves it alone, for details are not in it.
-/

namespace ShaderAnalysis

namespace Outline

/-- The names with that of the symbol, which stays the symbol it was if it is there already. -/
def indexName (t : Outline) (names : Table String Nat) (id : Nat) : Table String Nat :=
  match t.get? id with
  | some s => if names.contains s.name then names else names.insert s.name id
  | none => names

/-- Every name with the first symbol in preorder that has it. -/
def nameIndex (t : Outline) : Table String Nat :=
  t.preorder.foldl t.indexName .empty

/-- Whether `accept` takes the symbol. -/
def accepts (t : Outline) (accept : Symbol → Bool) (id : Nat) : Bool :=
  (t.get? id).any accept

end Outline

/-- An outline, with the index of its names while there is one. -/
structure IndexedOutline where
  outline : Outline
  index : Option (Table String Nat)
  deriving Repr

namespace IndexedOutline

/-- The outline, of which no name has been looked up. -/
def ofOutline (t : Outline) : IndexedOutline :=
  ⟨t, none⟩

/-- Puts a symbol below `parent`, or makes it a root; also returns its index. -/
def push (t : IndexedOutline) (parent : Option Nat) (s : Symbol) : IndexedOutline × Nat :=
  let (outline, id) := t.outline.push parent s
  (ofOutline outline, id)

/-- Gives a symbol another detail. -/
def setDetail (t : IndexedOutline) (id : Nat) (detail : String) : IndexedOutline :=
  { t with outline := t.outline.setDetail id detail }

/-- The first symbol in preorder with this name. -/
def find? (name : String) : StateM IndexedOutline (Option Nat) := do
  let t ← get
  let names := t.index.getD t.outline.nameIndex
  set { t with index := some names }
  return names.find? name

/-- All symbols with this name, in preorder. -/
def findAll (name : String) : StateM IndexedOutline (List Nat) := do
  return (← get).outline.findAll name

/-- The first symbol in preorder with this name that `accept` takes: the one in the index, if it does. -/
def firstAccepted (name : String) (accept : Symbol → Bool) : StateM IndexedOutline (Option Nat) := do
  let accepts := (← get).outline.accepts accept
  let first ← find? name
  let all ← findAll name
  return if first.any accepts then first else all.find? accepts

end IndexedOutline

end ShaderAnalysis
