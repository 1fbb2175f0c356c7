import ShaderAnalysis.Workspace.Discovery
import ShaderAnalysis.Workspace.Session

/-!
# The graph of includes

The files that a document includes, and those that these include, are visited depth first and in the
order of the directives. A file is visited once however often it is included, so cycles do no harm.
A visit can be cut short: files behind the one where it stops are not even read.
-/

namespace ShaderAnalysis

/-- A symbol with the analysis that it belongs to. -/
structure FoundSymbol where
  analysis : Analysis
  id : Nat
  deriving Repr, Inhabited

namespace FoundSymbol

def symbol (f : FoundSymbol) : Symbol :=
  f.analysis.symbol f.id

def document (f : FoundSymbol) : Document :=
  f.analysis.document

def uri (f : FoundSymbol) : Uri :=
  f.document.uri

end FoundSymbol

namespace Analysis

/-- The symbols of this name that `accept` takes, in preorder. -/
def findAll (a : Analysis) (name : String) (accept : Symbol → Bool) : List FoundSymbol :=
  ((a.outline.findAll name).filter fun id => accept (a.symbol id)).map (FoundSymbol.mk a)

/-- The first symbol of this name that `accept` takes. -/
def find? (a : Analysis) (name : String) (accept : Symbol → Bool) : Option FoundSymbol :=
  (a.findAll name accept).head?

end Analysis

namespace View

/-- The identities of the files that can be analyzed: those on the disk and the open ones. -/
def knownFiles (v : View) : List FileId :=
  v.disk.files.map (FileId.mk ·.text) ++ v.documents.byFile.keys

/-- The files that are known and not visited. -/
def unvisited (known visited : List FileId) : List FileId :=
  known.filter (· ∉ visited)

theorem length_unvisited_cons_lt {known visited : List FileId} {file : FileId}
    (h : file ∈ known ∧ file ∉ visited) :
    (unvisited known (file :: visited)).length < (unvisited known visited).length := by
  have split : unvisited known (file :: visited) = (unvisited known visited).filter (· ≠ file) := by
    simp only [unvisited, List.filter_filter]
    congr 1
    funext x
    simp
  rw [split, List.length_filter_lt_length_iff_exists]
  exact ⟨file, by simp [unvisited, h], by simp⟩

/-- The files reached from `pending`, each with its distance, up to the first one that satisfies `stop`.
Files that are `visited`, and those that are not `known`, are passed over. -/
def reach (v : View) (stop : Analysis → Bool) (known visited : List FileId) (pending : List (Path × Nat)) :
    Query (List (Analysis × Nat)) := do
  match pending with
  | [] => return []
  | (path, depth) :: rest =>
    let file := FileId.ofPath v.disk path
    if _h : file ∈ known ∧ file ∉ visited then
      match ← v.analysisAt path with
      | none => v.reach stop known (file :: visited) rest
      | some a =>
        if stop a then return [(a, depth)]
        let below := (← v.includes a).map fun path => (path, depth + 1)
        return (a, depth) :: (← v.reach stop known (file :: visited) (below ++ rest))
    else
      v.reach stop known visited rest
termination_by ((unvisited known visited).length, pending.length)
decreasing_by
  · exact Prod.Lex.left _ _ (length_unvisited_cons_lt (by assumption))
  · exact Prod.Lex.left _ _ (length_unvisited_cons_lt (by assumption))
  · exact Prod.Lex.right _ (by simp)

/-- The files reached from those that a document includes, the nearest with distance one. -/
def reachIncluded (v : View) (stop : Analysis → Bool) (a : Analysis) (included : List Path) :
    Query (List (Analysis × Nat)) :=
  v.reach stop v.knownFiles [a.file] (included.map (·, 1))

/-- A document and the files reached from it, up to the first one that satisfies `stop`. -/
def reachFrom (v : View) (stop : Analysis → Bool) (a : Analysis) : Query (List (Analysis × Nat)) := do
  if stop a then return [(a, 0)]
  return (a, 0) :: (← v.reachIncluded stop a (← v.includes a))

/-- Whether no file ends a visit. -/
def never (_ : Analysis) : Bool :=
  false

/-- Whether a document has a symbol of this name that `accept` takes. -/
def declares (name : String) (accept : Symbol → Bool) (a : Analysis) : Bool :=
  (a.find? name accept).isSome

/-- The symbol in the last one of these files. -/
def inLast (name : String) (accept : Symbol → Bool) (visited : List (Analysis × Nat)) : Option FoundSymbol :=
  visited.getLast?.bind fun (a, _) => a.find? name accept

/-- The first symbol of this name in a document or in a file reached from it. -/
def find (v : View) (a : Analysis) (name : String) (accept : Symbol → Bool) : Query (Option FoundSymbol) := do
  return inLast name accept (← v.reachFrom (declares name accept) a)

/-- The first symbol of this name in a file reached from these. -/
def findIncluded (v : View) (a : Analysis) (included : List Path) (name : String) (accept : Symbol → Bool) :
    Query (Option FoundSymbol) := do
  return inLast name accept (← v.reachIncluded (declares name accept) a included)

/-- All symbols of this name in a document and in the files reached from it. -/
def findAll (v : View) (a : Analysis) (name : String) (accept : Symbol → Bool) : Query (List FoundSymbol) := do
  return (← v.reachFrom never a).flatMap fun (a, _) => a.findAll name accept

/-! ## The whole workspace -/

/-- The analyses of files one after the other, up to the first one that satisfies `stop`, and whether
they were cut short by cancellation. Each file asks one question. -/
def scanFiles (v : View) (stop : Analysis → Bool) (oracle : Oracle) (asked : Nat) :
    List Path → Query (List Analysis × Bool)
  | [] => return ([], false)
  | path :: rest => do
    if oracle.cancels asked then return ([], true)
    match ← v.analysisAt path with
    | none => v.scanFiles stop oracle (asked + 1) rest
    | some a =>
      if stop a then return ([a], false)
      let (scanned, cancelled) ← v.scanFiles stop oracle (asked + 1) rest
      return (a :: scanned, cancelled)

/-- The analyses of the shader files of a workspace, up to the first one that satisfies `stop`, and
whether they were cut short by cancellation. -/
def scan (v : View) (stop : Analysis → Bool) (request : ScanRequest) : Query (List Analysis × Bool) :=
  let (files, asked) := Discovery.files v.disk request
  v.scanFiles stop request.oracle asked files

/-- The first symbol of this name in a workspace, unless the scan is cancelled. -/
def findInWorkspace (v : View) (name : String) (request : ScanRequest) : Query (Option FoundSymbol) := do
  let accept := fun _ => true
  let (scanned, _) ← v.scan (declares name accept) request
  return scanned.getLast?.bind (·.find? name accept)

end View

end ShaderAnalysis
