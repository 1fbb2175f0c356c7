import ShaderAnalysis.Files.Disk
import ShaderAnalysis.Toml.Reader

/-!
# Formatting options of a project

A file of this name sets how the documents in and below its directory are formatted. The nearest one
counts; if it cannot be read it sets nothing, and no other one is looked for.
-/

namespace ShaderAnalysis

/-- What a project sets. -/
structure ProjectFormat where
  tabSize : Option Nat
  enabled : Option Bool
  deriving DecidableEq, Repr, Inhabited

namespace ProjectFormat

/-- The name of the file. -/
def fileName : String := "shaderlabfmt.toml"

/-- A project that sets nothing. -/
def nothing : ProjectFormat :=
  ⟨none, none⟩

/-- The value of an option, if it is given; none if it is of another kind. -/
def option {α : Type} (decode : Toml.Value → Option α) (entries : Toml.Entries) (key : String) :
    Option (Option α) :=
  match entries.find? key with
  | none => some none
  | some (.value v) => (decode v).map some
  | some _ => none

/-- The value of a number of 32 bits. -/
def number? : Toml.Value → Option Nat
  | .integer n => if 0 ≤ n ∧ fitsBits 32 n.toNat then some n.toNat else none
  | _ => none

def boolean? : Toml.Value → Option Bool
  | .boolean b => some b
  | _ => none

/-- What the text of a file sets, if it is of the right form. -/
def ofText? (text : String) : Option ProjectFormat := do
  let entries ← Toml.parse? text
  return ⟨← option number? entries "tab_size", ← option boolean? entries "enabled"⟩

/-- The file that counts for the file at a path. -/
def find? (disk : Disk) (p : Path) : Option Path :=
  (p.parents.map (·.join fileName)).find? disk.isFile

/-- What is set for the file at a path. -/
def at? (disk : Disk) (p : Path) : Option ProjectFormat := do
  ofText? (← disk.readText? (← find? disk p))

end ProjectFormat

end ShaderAnalysis
