import ShaderAnalysis.Code.CallSite
import ShaderAnalysis.Hlsl.Database
import ShaderAnalysis.Settings.Basic
import ShaderAnalysis.Workspace.IncludeGraph

/-!
# Signature help

The signatures of the function that is called at a cursor: that of the builtin, then those of all
functions of this name in the document and what it includes.
-/

namespace ShaderAnalysis

/-- A parameter of a signature. -/
structure ParameterInfo where
  label : String
  documentation : Option String
  deriving DecidableEq, Repr

/-- A signature. -/
structure SignatureInfo where
  label : String
  documentation : Option String
  parameters : List ParameterInfo
  deriving DecidableEq, Repr

/-- The signatures at a cursor, the one that is shown first, and the argument that the cursor is in. -/
structure SignatureHelp where
  signatures : List SignatureInfo
  active : Nat
  argument : Nat
  deriving DecidableEq, Repr

namespace SignatureInfo

/-- The text, if there is any. -/
def nonempty (s : String) : Option String :=
  if s.isEmpty then none else some s

/-- The signature of a builtin function. -/
def ofBuiltin (b : Hlsl.Builtin) : SignatureInfo :=
  ⟨b.detail, nonempty b.documentation, b.parameters.map (ParameterInfo.mk · none)⟩

/-- The signature of a function. -/
def ofSymbol (f : FoundSymbol) : SignatureInfo :=
  let label := f.analysis.signatureLabel f.id
  let parameters := (f.analysis.parameters f.id).map f.analysis.symbol
  ⟨label, some ("\x60\x60\x60hlsl\n" ++ label ++ "\n\x60\x60\x60\n\n*Defined in: " ++ f.document.fileName ++ "*"),
    parameters.map fun p => ⟨p.name, nonempty p.detail⟩⟩

end SignatureInfo

/-- The help that signatures give at a call: shown first is one that has the argument. Equal signatures
count once. -/
def SignatureHelp.ofSignatures? (signatures : List SignatureInfo) (argument : Nat) : Option SignatureHelp :=
  match Settings.firstOfEach (·.label) signatures with
  | [] => none
  | distinct =>
    some ⟨distinct, (distinct.findIdx? fun s => argument < s.parameters.length).getD 0, argument⟩

namespace View

/-- The signatures of a function. -/
def signatures (v : View) (a : Analysis) (name : String) : Query (List SignatureInfo) := do
  let overloads ← v.findAll a name (·.kind.isCallable)
  return ((Hlsl.function? name).map SignatureInfo.ofBuiltin).toList ++ overloads.map SignatureInfo.ofSymbol

/-- The help at a position; there is none in shaders. -/
def signatureHelp (v : View) (uri : Uri) (position : Position) :
    Query (Except CallFault (Option SignatureHelp)) := do
  match (← v.analysis uri).filter (·.language == .hlsl) with
  | none => return .ok none
  | some a =>
    match (a.document.offsetOf? position).map (CallSite.at? a.text) with
    | none | some (.ok none) => return .ok none
    | some (.error fault) => return .error fault
    | some (.ok (some call)) =>
      return .ok (SignatureHelp.ofSignatures? (← v.signatures a call.name) call.argument)

end View

end ShaderAnalysis
