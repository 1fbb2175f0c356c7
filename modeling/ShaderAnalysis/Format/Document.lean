import ShaderAnalysis.Document.Edit
import ShaderAnalysis.Format.Project
import ShaderAnalysis.Settings.Basic

/-!
# Formatting documents

A document is formatted as one edit that replaces all of its text, or none if the text is formatted
already. A project overrides the settings, and these override what the client asks for.
-/

namespace ShaderAnalysis

/-- A replacement of the text of a range. -/
structure TextEdit where
  range : PositionRange
  newText : String
  deriving DecidableEq, Repr

/-- Why a document is not formatted. -/
inductive FormatFault where
  | notApplicable (language : Option Language)
  | disabled
  deriving DecidableEq, Repr

namespace FormatFault

/-- What is reported to the client. -/
def message : FormatFault → String
  | notApplicable language =>
    "Current document language is " ++ (language.map Language.id).getD "plaintext" ++
      ", not shaderlab; cannot format"
  | disabled => "formatting is disabled"

end FormatFault

namespace Document

/-- The range of all of the text. -/
def fullRange (d : Document) : PositionRange :=
  ⟨⟨0, 0⟩, d.positionOf d.size⟩

/-- What the project of a document sets. -/
def projectFormat (d : Document) (disk : Disk) : ProjectFormat :=
  (d.uri.toPath?.bind (ProjectFormat.at? disk)).getD .nothing

/-- The number of spaces of one level: that of the project, else that of the settings, else that of
the request, within bounds. -/
def tabSize (project : ProjectFormat) (settings : FormattingSettings) (requested : Nat) : Nat :=
  Format.clampTabSize ((project.tabSize.or settings.tabSize).getD requested)

/-- The edit that formats a document. -/
def format (d : Document) (disk : Disk) (settings : FormattingSettings) (requested : Nat) :
    Except FormatFault (Option TextEdit) :=
  let project := d.projectFormat disk
  if d.language.isNone then .error (.notApplicable d.language)
  else if !project.enabled.getD settings.enabled then .error .disabled
  else
    let formatted := formatCode d.text (tabSize project settings requested)
    .ok (if formatted = d.text then none else some ⟨d.fullRange, formatted⟩)

/-- The edit that formats a document which has to be ShaderLab. -/
def formatShader (d : Document) (disk : Disk) (settings : FormattingSettings) (requested : Nat) :
    Except FormatFault (Option TextEdit) :=
  if d.language = some .shaderLab then d.format disk settings requested
  else .error (.notApplicable d.language)

end Document

end ShaderAnalysis
