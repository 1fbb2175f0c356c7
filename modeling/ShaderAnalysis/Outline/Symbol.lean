import ShaderAnalysis.Text.Span

/-!
# Symbols

A symbol is a named construct of a source text: what kind it is, how far it reaches, and where its
name stands.
-/

namespace ShaderAnalysis

/-- What a symbol is. -/
inductive SymbolKind where
  | file
  | package
  | struct
  | class_
  | function
  | method
  | field
  | variable
  | constant
  | module
  | property
  deriving DecidableEq, Repr, Inhabited

namespace SymbolKind

/-- Whether the symbol can be called. -/
def isCallable : SymbolKind → Bool
  | function | method => true
  | _ => false

/-- Whether the symbol declares a type. -/
def isType : SymbolKind → Bool
  | struct | class_ => true
  | _ => false

end SymbolKind

/-- A named construct: the whole declaration and the name itself have a span each. -/
structure Symbol where
  name : String
  detail : String
  kind : SymbolKind
  span : Span
  selection : Span
  deriving DecidableEq, Repr, Inhabited

end ShaderAnalysis
