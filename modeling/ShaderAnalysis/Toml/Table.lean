/-!
# Tables of configuration files

A configuration file describes one table by statements: pairs of a key and a value, and headers that
say to which table below the root the pairs that follow belong. A table is described in one way only,
by a header, by a dotted key or as a value, and no key is given twice.
-/

namespace ShaderAnalysis.Toml

/-- A value. Only the kinds of values that options have are told apart. -/
inductive Value where
  | integer (n : Int)
  | boolean (b : Bool)
  | other
  deriving DecidableEq, Repr, Inhabited

/-- How a table came about: by a header of its own, as a part of the path in a header, or as a part of
a dotted key. -/
inductive Origin where
  | header
  | pathOfHeader
  | dottedKey
  deriving DecidableEq, Repr, Inhabited

/-- What a key of a table stands for. Of an array of tables only the last one can still be added
to. -/
inductive Entry where
  | value (v : Value)
  | table (origin : Origin) (entries : List (String × Entry))
  | tables (last : List (String × Entry))
  deriving Inhabited

/-- The entries of a table. -/
abbrev Entries := List (String × Entry)

namespace Entries

/-- What a key stands for. -/
def find? (t : Entries) (key : String) : Option Entry :=
  (List.find? (·.1 == key) t).map (·.2)

/-- The table with another entry for a key. -/
def set (t : Entries) (key : String) (e : Entry) : Entries :=
  List.filter (·.1 != key) t ++ [(key, e)]

/-- Changes the table at the end of a path, which comes about on the way if it does not exist. Dotted
keys do not lead through a table that has a header. -/
def alter (dotted : Bool) (change : Origin → Entries → Option Entries) (origin : Origin) (t : Entries) :
    List String → Option Entries
  | [] => change origin t
  | key :: path =>
    match t.find? key with
    | none => do
      let made : Origin := if dotted then .dottedKey else .pathOfHeader
      return t.set key (.table made (← alter dotted change made [] path))
    | some (.value _) => none
    | some (.tables last) => do
      return t.set key (.tables (← alter dotted change .header last path))
    | some (.table origin below) => do
      guard !(dotted && origin == .header)
      return t.set key (.table origin (← alter dotted change origin below path))

/-- Gives the value of a dotted key, whose last part is `key`. -/
def give (origin : Origin) (path : List String) (key : String) (v : Value) (t : Entries) : Option Entries :=
  alter true (fun origin t => do
    guard ((origin == .dottedKey) == !path.isEmpty)
    guard (t.find? key).isNone
    return t.set key (.value v)) origin t path

/-- Starts a table with a header. -/
def begin (key : String) (t : Entries) : Option Entries :=
  match t.find? key with
  | none => some (t.set key (.table .header []))
  | some (.table .pathOfHeader below) => some (t.set key (.table .header below))
  | some _ => none

/-- Starts a further table of an array of tables. -/
def beginNext (key : String) (t : Entries) : Option Entries :=
  match t.find? key with
  | none | some (.tables _) => some (t.set key (.tables []))
  | some _ => none

end Entries

/-- A statement of a configuration file. -/
inductive Statement where
  | pair (path : List String) (key : String) (v : Value)
  | table (path : List String) (key : String)
  | tables (path : List String) (key : String)
  deriving Repr

/-- The table that is described so far, and the path of the header that counts. -/
structure Description where
  entries : Entries
  header : List String

/-- The description with one more statement. -/
def Description.add (d : Description) : Statement → Option Description
  | .pair path key v => do
    let change := fun origin t => Entries.give origin path key v t
    return { d with entries := ← d.entries.alter false change .header d.header }
  | .table path key => do
    return ⟨← d.entries.alter false (fun _ => Entries.begin key) .header path, path ++ [key]⟩
  | .tables path key => do
    return ⟨← d.entries.alter false (fun _ => Entries.beginNext key) .header path, path ++ [key]⟩

/-- The table that statements describe. -/
def describe? (statements : List Statement) : Option Entries :=
  (statements.foldlM Description.add ⟨[], []⟩).map (·.entries)

end ShaderAnalysis.Toml
