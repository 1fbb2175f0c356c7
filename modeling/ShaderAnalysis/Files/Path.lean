import ShaderAnalysis.Language

/-!
# Paths

A path is a text with slashes. Its meaning is its list of components: repeated slashes count once,
a trailing slash not at all, and a dot is only a component at the very start.
-/

namespace ShaderAnalysis

/-- A path as it is written. -/
structure Path where
  text : String
  deriving DecidableEq, Repr, Inhabited

/-- A part of a path. -/
inductive Path.Component where
  | root
  | current
  | parent
  | normal (name : String)
  deriving DecidableEq, Repr, Inhabited

namespace Path

/-- The text of a component. -/
def Component.text : Component → String
  | root => "/"
  | current => "."
  | parent => ".."
  | normal name => name

/-- The component that a piece between slashes is; the piece is not empty and no dot. -/
def Component.ofPiece (piece : List Char) : Component :=
  if piece = ['.', '.'] then .parent else .normal (String.ofList piece)

/-- The components of the pieces between slashes. -/
def componentsOfPieces (pieces : List (List Char)) : List Component :=
  (pieces.filter fun p => p != [] && p != ['.']).map Component.ofPiece

/-- Whether the path starts at the root. -/
def isAbsolute (p : Path) : Bool :=
  p.text.toList.head? == some '/'

/-- The components of a path. -/
def components (p : Path) : List Component :=
  let pieces := Text.splitWhere (· == '/') p.text.toList
  let first := if p.isAbsolute then [.root] else if pieces.head? == some ['.'] then [.current] else []
  first ++ componentsOfPieces pieces

/-- The path of these components. -/
def ofComponents : List Component → Path
  | .root :: rest => ⟨"/" ++ "/".intercalate (rest.map Component.text)⟩
  | parts => ⟨"/".intercalate (parts.map Component.text)⟩

/-- Paths are the same if their components are. -/
def same (p q : Path) : Bool :=
  p.components == q.components

/-- `q`, taken from `p` on unless it is absolute. -/
def join (p : Path) (q : String) : Path :=
  if (Path.mk q).isAbsolute then ⟨q⟩
  else if p.text.isEmpty || p.text.toList.getLast? == some '/' then ⟨p.text ++ q⟩
  else ⟨p.text ++ "/" ++ q⟩

/-- The path without its last component, if that is not the root. -/
def parent? (p : Path) : Option Path :=
  match p.components.getLast? with
  | none | some .root => none
  | some _ => some (ofComponents p.components.dropLast)

/-- The paths that a path lies in, nearest first. -/
def parents (p : Path) : List Path :=
  ((List.range p.components.length).reverse.filter fun n => n != 0 || !p.isAbsolute).map fun n =>
    ofComponents (p.components.take n)

/-- The last component, if it is a name. -/
def fileName? (p : Path) : Option String :=
  match p.components.getLast? with
  | some (.normal name) => some name
  | _ => none

/-- What follows the last dot of a name; a dot at the very start does not count. -/
def extensionOf? (name : String) : Option String :=
  let reversed := name.toList.reverse
  match reversed.dropWhile (· != '.') with
  | [] | [_] => none
  | _ => some (String.ofList (reversed.takeWhile (· != '.')).reverse)

/-- The extension of the file name. -/
def extension? (p : Path) : Option String :=
  p.fileName?.bind extensionOf?

/-- The language of a file. -/
def language? (p : Path) : Option Language :=
  p.extension?.bind Language.ofExtension?

/-- Whether the file is one that workspace scans look at. -/
def isShaderFamily (p : Path) : Bool :=
  p.extension?.any fun e => shaderFamilyExtensions.any (Text.sameIgnoringAsciiCase e)

/-! ## Normalising -/

/-- The components so far, innermost first, with one more taken into account. -/
def normalizeStep (stack : List Component) (c : Component) : List Component :=
  match c, stack with
  | .current, _ => stack
  | .parent, .normal _ :: rest => rest
  | .parent, .root :: _ => stack
  | c, _ => c :: stack

/-- The components without dots, and without a name before two dots. -/
def normalizeComponents (parts : List Component) : List Component :=
  (parts.foldl normalizeStep []).reverse

/-- The path without dots and, where that is possible, without double dots. The disk is not asked. -/
def normalize (p : Path) : Path :=
  ofComponents (normalizeComponents p.components)

/-! ## Exclusion -/

/-- The fragment without the slashes at its ends. -/
def trimSlashes (fragment : String) : List Char :=
  Text.trimEndWhile (· == '/') (fragment.toList.dropWhile (· == '/'))

/-- Whether one of these fragments excludes the path: it occurs in the text of the path, with
forward slashes, or is one of its components. -/
def isExcluded (p : Path) (fragments : List String) : Bool :=
  let shown := p.text.toList.map fun c => if c == '\\' then '/' else c
  fragments.any fun fragment =>
    let fragment := trimSlashes fragment
    !fragment.isEmpty &&
      (Text.hasInfix fragment shown || p.components.any fun c => c.text.toList == fragment)

end Path

end ShaderAnalysis
