import ShaderAnalysis.Format.Code
import ShaderAnalysis.Inclusion.Config

/-!
# Settings

What a client can set: where includes are looked for, how documents are formatted, how much of a
workspace is scanned, and what is reported. Settings have a normal form: texts are trimmed and not
empty, lists have no duplicates, numbers are within their bounds, and mappings are ordered so that the
longest name that fits comes first.
-/

namespace ShaderAnalysis

/-- How much is reported, from little to much. -/
inductive LogLevel where
  | error
  | warn
  | info
  | debug
  | trace
  deriving DecidableEq, Repr, Inhabited

namespace LogLevel

/-- The word for a level. -/
def word : LogLevel → String
  | error => "error"
  | warn => "warn"
  | info => "info"
  | debug => "debug"
  | trace => "trace"

/-- The level with this word. -/
def ofWord? (word : String) : Option LogLevel :=
  [error, warn, info, debug, trace].find? (·.word == word)

/-- Whether what merely informs is reported. -/
def allowsInfo : LogLevel → Bool
  | error | warn => false
  | info | debug | trace => true

@[simp] theorem ofWord?_word (l : LogLevel) : ofWord? l.word = some l := by
  cases l <;> decide

end LogLevel

/-- How documents are formatted. -/
structure FormattingSettings where
  enabled : Bool
  tabSize : Option Nat
  deriving DecidableEq, Repr, Inhabited

/-- How much of a workspace is scanned. -/
structure IndexingSettings where
  fallback : Bool
  maxFiles : Nat
  excludes : List String
  deriving DecidableEq, Repr, Inhabited

/-- All settings. -/
structure Settings where
  libraryPath : Option String
  projectPath : Option String
  mappings : List (String × String)
  formatting : FormattingSettings
  indexing : IndexingSettings
  logLevel : LogLevel
  deriving DecidableEq, Repr, Inhabited

namespace Settings

/-- The bounds for the number of files of a scan. -/
def minFiles : Nat := 1

def maxFiles : Nat := 20000

/-- The settings of a client that sets nothing. -/
def default : Settings :=
  ⟨none, none, [], ⟨true, none⟩, ⟨true, 500, []⟩, .info⟩

/-- The text without blanks at its ends, if anything is left. -/
def tidyText (s : String) : Option String :=
  let trimmed := Text.trimmed s
  if trimmed.isEmpty then none else some trimmed

/-- The items without those that are equal to an earlier one as far as `key` tells. -/
def firstOfEach {α β : Type} [BEq β] (key : α → β) : List α → List α
  | [] => []
  | a :: rest => a :: (firstOfEach key rest).filter fun b => !(key b == key a)

/-- A mapping in normal form: no slash ends the name. -/
def tidyMapping (mapping : String × String) : Option (String × String) := do
  let name := String.ofList (Text.trimEndWhile (· == '/') (Text.trim mapping.1.toList))
  guard !name.isEmpty
  return (name, ← tidyText mapping.2)

/-- Whether mapping `a` is tried before mapping `b`: the longer name first, then by text. -/
def mappingBefore (a b : String × String) : Bool :=
  b.1.utf8ByteSize < a.1.utf8ByteSize || (a.1.utf8ByteSize == b.1.utf8ByteSize && !(b.1 < a.1))

/-- Mappings in normal form. -/
def tidyMappings (mappings : List (String × String)) : List (String × String) :=
  (firstOfEach (·.1) (mappings.filterMap tidyMapping)).mergeSort mappingBefore

/-- The settings in normal form. -/
def normalize (s : Settings) : Settings where
  libraryPath := s.libraryPath.bind tidyText
  projectPath := s.projectPath.bind tidyText
  mappings := tidyMappings s.mappings
  formatting := { s.formatting with tabSize := s.formatting.tabSize.map Format.clampTabSize }
  indexing :=
    { s.indexing with
      maxFiles := max minFiles (min s.indexing.maxFiles maxFiles)
      excludes := firstOfEach id (s.indexing.excludes.filterMap tidyText) }
  logLevel := s.logLevel

/-- Where included files are looked for in a workspace with these folders. -/
def includeConfig (s : Settings) (roots : List Path) : IncludeConfig where
  library := s.libraryPath.map Path.mk
  project := s.projectPath.map Path.mk
  mappings := s.mappings.map fun (name, directory) => (name, ⟨directory⟩)
  roots

end Settings

end ShaderAnalysis
