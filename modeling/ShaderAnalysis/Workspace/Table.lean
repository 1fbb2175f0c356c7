/-!
# Tables

A finite map as a list of pairs. Each key occurs once, with the value that it was given last.
-/

namespace ShaderAnalysis

/-- A finite map. -/
structure Table (κ α : Type) where
  entries : List (κ × α)
  deriving Repr

namespace Table

variable {κ α : Type} [DecidableEq κ]

/-- The map without keys. -/
def empty : Table κ α :=
  ⟨[]⟩

instance : Inhabited (Table κ α) := ⟨empty⟩

/-- The value of a key. -/
def find? (t : Table κ α) (key : κ) : Option α :=
  (t.entries.find? fun e => decide (e.1 = key)).map (·.2)

/-- The map without a key. -/
def erase (t : Table κ α) (key : κ) : Table κ α :=
  ⟨t.entries.filter fun e => !decide (e.1 = key)⟩

/-- The map with another value for a key. -/
def insert (t : Table κ α) (key : κ) (value : α) : Table κ α :=
  ⟨(key, value) :: (t.erase key).entries⟩

/-- The map without the keys whose values satisfy `p`. -/
def eraseWhere (t : Table κ α) (p : α → Bool) : Table κ α :=
  ⟨t.entries.filter fun e => !p e.2⟩

/-- The number of keys. -/
def size (t : Table κ α) : Nat :=
  t.entries.length

/-- Whether a key has a value. -/
def contains (t : Table κ α) (key : κ) : Bool :=
  (t.find? key).isSome

/-- The keys that have a value. -/
def keys (t : Table κ α) : List κ :=
  t.entries.map (·.1)

@[simp] theorem find?_empty (key : κ) : (empty : Table κ α).find? key = none := rfl

theorem find?_erase (t : Table κ α) (key other : κ) :
    (t.erase key).find? other = if other = key then none else t.find? other := by
  unfold find? erase
  induction t.entries with
  | nil => simp
  | cons e es ih =>
    by_cases h : e.1 = key <;> by_cases g : e.1 = other <;> simp_all

theorem find?_insert (t : Table κ α) (key other : κ) (value : α) :
    (t.insert key value).find? other = if other = key then some value else t.find? other := by
  by_cases h : key = other
  · simp [find?, insert, h]
  · have := find?_erase t key other
    simp only [find?, insert] at this ⊢
    rw [List.find?_cons_of_neg (by simpa using h), this]
    simp [Ne.symm h]

end Table

end ShaderAnalysis
