import ShaderAnalysis.Document.Basic

/-!
# Edits

A client describes how a document changes as a list of replacements: of everything, or of a range of
positions in the text that the replacements before have left. A range in lines that do not exist is
passed over. A range that ends before it starts cannot be applied: the batch stops there, with the
version as it was.
-/

namespace ShaderAnalysis

/-- One replacement; without a range, of everything. -/
structure Change where
  range : Option PositionRange
  text : String
  deriving DecidableEq, Repr

/-- Why an edit cannot be applied. -/
inductive EditFault where
  | inverted
  deriving DecidableEq, Repr

namespace Document

/-- The document with another text. -/
def withText (d : Document) (text : String) : Document :=
  { d with text, lineStarts := lineStartsOf text }

/-- The text with the bytes of a span replaced. -/
def splice (text : String) (span : Span) (replacement : String) : String :=
  Text.slice text (.between 0 span.start) ++ replacement ++ Text.slice text (.between span.stop text.utf8ByteSize)

/-- The document after one change. -/
def applyChange (d : Document) (c : Change) : Except EditFault Document :=
  match c.range with
  | none => .ok (d.withText c.text)
  | some range =>
    match d.offsetOf? range.start, d.offsetOf? range.stop with
    | some start, some stop =>
      if h : start ≤ stop then .ok (d.withText (splice d.text ⟨start, stop, h⟩ c.text))
      else .error .inverted
    | _, _ => .ok d

/-- The document after a batch of changes, and what stopped the batch, if something did. -/
def applyChanges (d : Document) (changes : List Change) (version : Int) : Document × Option EditFault :=
  match changes with
  | [] => ({ d with version }, none)
  | c :: rest =>
    match d.applyChange c with
    | .ok d => d.applyChanges rest version
    | .error fault => (d, some fault)

end Document

end ShaderAnalysis
