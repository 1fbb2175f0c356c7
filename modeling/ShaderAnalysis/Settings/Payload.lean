import ShaderAnalysis.Json.Basic
import ShaderAnalysis.Settings.Basic

/-!
# Settings as clients send them

A payload is JSON that has been written by hand. It is taken as a whole, and then its section for
this server; each of the two counts only if all of its known members are of the right form. Members
that are missing or null set nothing.
-/

namespace ShaderAnalysis

/-- What a payload sets. -/
structure SettingsPatch where
  libraryPath : Option String
  projectPath : Option String
  mappings : Option (List (String × String))
  enabled : Option Bool
  tabSize : Option Nat
  fallback : Option Bool
  maxFiles : Option Nat
  excludes : Option (List String)
  logLevel : Option LogLevel
  deriving DecidableEq, Repr

namespace SettingsPatch

/-- The value of a member, if it is set; none if it is of another form. -/
def field {α : Type} (decode : Json → Option α) (members : List (String × Json)) (key : String) :
    Option (Option α) :=
  match Json.member? members key with
  | none | some .null => some none
  | some v => (decode v).map some

/-- The members of a section; a section that is not set has none. -/
def group (members : List (String × Json)) (key : String) : Option (List (String × Json)) :=
  (field Json.object? members key).map (·.getD [])

/-- All texts of an array. -/
def texts? (v : Json) : Option (List String) := do
  (← v.array?).mapM Json.text?

/-- All members of an object of texts, by name. -/
def textMembers? (v : Json) : Option (List (String × String)) := do
  let members := (Settings.firstOfEach (·.1) (← v.object?).reverse).mergeSort fun a b => !(b.1 < a.1)
  members.mapM fun (key, value) => value.text?.map (key, ·)

/-- A level, as a word or as an object of one null member of this name. -/
def level? : Json → Option LogLevel
  | .text word => LogLevel.ofWord? word
  | .object [(word, .null)] => LogLevel.ofWord? word
  | _ => none

/-- The two names of the path of the library. -/
def libraryKey : String := "cgIncludesPath"

def libraryAlias : String := "Unity CGIncludes Path"

/-- The path of the library, which may be given by one of its names only. -/
def libraryPath? (members : List (String × Json)) : Option (Option String) :=
  if (Json.member? members libraryKey).isSome && (Json.member? members libraryAlias).isSome then none
  else do
    return (← field Json.text? members libraryKey).or (← field Json.text? members libraryAlias)

/-- What a JSON value sets, if it is of the right form. -/
def ofJson? (v : Json) : Option SettingsPatch := do
  let members ← v.object?
  let formatting ← group members "formatting"
  let indexing ← group members "indexing"
  let logging ← group members "logging"
  return {
    libraryPath := ← libraryPath? members
    projectPath := ← field Json.text? members "unityProjectPath"
    mappings := ← field textMembers? members "packageMappings"
    enabled := ← field Json.bool? formatting "enabled"
    tabSize := ← field Json.nat? formatting "tabSize"
    fallback := ← field Json.bool? indexing "workspaceFallback"
    maxFiles := ← field Json.nat? indexing "maxWorkspaceFiles"
    excludes := ← field texts? indexing "excludePaths"
    logLevel := ← field level? logging "level" }

end SettingsPatch

namespace Settings

/-- The member of a payload that holds the section for this server. -/
def sectionKey : String := "shaderlab-analyzer"

/-- The settings with what a patch sets. -/
def apply (s : Settings) (p : SettingsPatch) : Settings where
  libraryPath := p.libraryPath.or s.libraryPath
  projectPath := p.projectPath.or s.projectPath
  mappings := p.mappings.getD s.mappings
  formatting := ⟨p.enabled.getD s.formatting.enabled, p.tabSize.or s.formatting.tabSize⟩
  indexing :=
    ⟨p.fallback.getD s.indexing.fallback, p.maxFiles.getD s.indexing.maxFiles,
      p.excludes.getD s.indexing.excludes⟩
  logLevel := p.logLevel.getD s.logLevel

/-- The values of a payload that are tried, in order. -/
def candidates (payload : Json) : List Json :=
  payload :: (payload.get? sectionKey).toList

/-- The settings with what a payload sets, in normal form. -/
def merge (s : Settings) (payload : Json) : Settings :=
  (((candidates payload).filterMap SettingsPatch.ofJson?).foldl apply s).normalize

/-- The settings of a client that starts with this payload, or with none. -/
def ofPayload (payload : Option Json) : Settings :=
  match payload with
  | some v => default.merge v
  | none => default

end Settings

end ShaderAnalysis
