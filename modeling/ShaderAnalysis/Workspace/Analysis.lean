import ShaderAnalysis.Outline.Extract
import ShaderAnalysis.Workspace.Snapshot

/-!
# Analyses

The outline of a document together with the text it was taken from. Analyses are kept by file and
are used as long as the fingerprint and the language of the document stay the same.
-/

namespace ShaderAnalysis

/-- The outline of a document. -/
structure Analysis where
  file : FileId
  fingerprint : Fingerprint
  language : Language
  document : Document
  outline : Outline
  deriving Repr, Inhabited

namespace Analysis

/-- Takes the outline of a snapshot in this language. -/
def ofSnapshot (s : Snapshot) (language : Language) : Analysis :=
  ⟨s.file, s.fingerprint, language, s.document, .extract language s.document.text⟩

/-- Whether the analysis can still be used. -/
def isCurrent (a : Analysis) (s : Snapshot) (language : Language) : Bool :=
  a.fingerprint == s.fingerprint && a.language == language

/-- The text of the document. -/
def text (a : Analysis) : String :=
  a.document.text

/-- The symbol with this index. -/
def symbol (a : Analysis) (id : Nat) : Symbol :=
  (a.outline.get? id).getD default

/-- The offset at which the body of a symbol opens, or the end of a symbol without a body. -/
def bodyStart (a : Analysis) (s : Symbol) : Nat :=
  let cs := (Text.slice a.text s.span).toList
  if cs.contains '\x7b' then s.span.start + Text.length8 (cs.takeWhile (· != '\x7b')) else s.span.stop

/-- The parameters of a function: the variables below it that are declared before its body opens. -/
def parameters (a : Analysis) (id : Nat) : List Nat :=
  let body := a.bodyStart (a.symbol id)
  (a.outline.children id).filter fun child =>
    (a.symbol child).kind == .variable && (a.symbol child).selection.start < body

/-- How a function is called: its detail if that has a list of parameters, else its name with the types
and names of its parameters. -/
def signatureLabel (a : Analysis) (id : Nat) : String :=
  let s := a.symbol id
  if s.detail.toList.contains '(' then s.detail
  else
    let parameters := (a.parameters id).map fun child =>
      Text.trimmed ((a.symbol child).detail ++ " " ++ (a.symbol child).name)
    s.name ++ "(" ++ ", ".intercalate parameters ++ ")"

/-- Whether a cursor at `offset` is in a comment. -/
def isInComment (a : Analysis) (offset : Nat) : Bool :=
  let line := (a.document.lineText? (a.document.lineOf offset)).getD ""
  "//".toList.isPrefixOf (Text.trimStart line.toList) || (Lexical.classAt a.text offset).isComment

end Analysis

/-- The analyses that are kept. -/
abbrev AnalysisCache := Table FileId Analysis

namespace AnalysisCache

/-- The analysis of a snapshot, taken anew if the one that is kept is not current. A document in no
known language has none. -/
def analyze (s : Snapshot) : StateM AnalysisCache (Option Analysis) := do
  match s.document.language with
  | none => return none
  | some language =>
    match ((← get).find? s.file).filter (·.isCurrent s language) with
    | some kept => return some kept
    | none =>
      let taken := Analysis.ofSnapshot s language
      modify (·.insert s.file taken)
      return some taken

end AnalysisCache

end ShaderAnalysis
