import ShaderAnalysis.Text.Words

/-!
# Lines of a formatted text

A line of source text is taken apart into code and a trailing comment, and its code is broken into
the pieces that get a line each: a piece ends at a statement's semicolon, and braces stand alone
unless nothing is between them. Text in string literals is never looked at.
-/

namespace ShaderAnalysis.Format

/-- An output line before it is indented. -/
structure Line where
  content : List Char
  comment : List Char
  deriving DecidableEq, Repr

/-- Where a character stands with respect to string literals. -/
inductive Quoting where
  | outside
  | inside
  | escaped
  deriving DecidableEq, Repr, Inhabited

/-- Where the next character stands. -/
def Quoting.next : Quoting → Char → Quoting
  | .outside, c => if c = '"' then .inside else .outside
  | .inside, c => if c = '\\' then .escaped else if c = '"' then .outside else .inside
  | .escaped, _ => .inside

/-- Whether a comment starts with these characters. -/
def startsComment : List Char → Bool
  | '/' :: '/' :: _ | '/' :: '*' :: _ => true
  | _ => false

/-- The characters before and from the first comment on. -/
def splitComment (q : Quoting) : List Char → List Char × List Char
  | [] => ([], [])
  | c :: cs =>
    if q = .outside ∧ startsComment (c :: cs) = true then ([], c :: cs)
    else
      let (code, comment) := splitComment (q.next c) cs
      (c :: code, comment)

/-- Runs of blanks outside string literals become one space; `pending` says whether one is due. -/
def collapseFrom (q : Quoting) (pending : Bool) : List Char → List Char
  | [] => []
  | c :: cs =>
    if q = .outside ∧ Text.isBlank c = true then collapseFrom q true cs
    else if pending then ' ' :: c :: collapseFrom (q.next c) false cs
    else c :: collapseFrom (q.next c) false cs

/-- The code without blanks at its ends and with single spaces in between. -/
def collapse (code : List Char) : List Char :=
  collapseFrom .outside false (Text.trim code)

/-! ## Pieces -/

/-- The piece as a list of pieces: none if it is blank. -/
def piece (current : List Char) : List (List Char) :=
  let trimmed := Text.trim current
  if trimmed.isEmpty then [] else [trimmed]

/-- What follows the next closing brace, if only blanks stand before it. -/
def closingBrace? (cs : List Char) : Option (List Char) :=
  match cs.dropWhile Text.isBlank with
  | '\x7d' :: rest => some rest
  | _ => none

/-- A semicolon behind blanks right after a closing brace belongs to it. -/
def takeSemicolon (cs : List Char) : List Char × List Char :=
  match cs.dropWhile Text.isBlank with
  | ';' :: rest => ([';'], rest)
  | _ => ([], cs)

theorem length_dropWhile_le {α : Type} (p : α → Bool) (xs : List α) : (xs.dropWhile p).length ≤ xs.length :=
  (List.dropWhile_suffix p).length_le

theorem length_closingBrace? {cs rest : List Char} (h : closingBrace? cs = some rest) :
    rest.length < cs.length := by
  have := length_dropWhile_le Text.isBlank cs
  unfold closingBrace? at h
  split at h
  · rename_i heq
    rw [heq, List.length_cons] at this
    obtain rfl := Option.some.inj h
    omega
  · cases h

theorem length_takeSemicolon (cs : List Char) : (takeSemicolon cs).2.length ≤ cs.length := by
  have := length_dropWhile_le Text.isBlank cs
  unfold takeSemicolon
  split
  · rename_i heq
    rw [heq, List.length_cons] at this
    simp only
    omega
  · exact Nat.le_refl _

/-- Code before an empty block on the same line. -/
def beforeBlock (current : List Char) : List Char :=
  let code := Text.trimEnd current
  if code.isEmpty then [] else code ++ [' ']

/-- The pieces of code, the first of which starts with `current`. Semicolons inside `depth`
parentheses end no piece. -/
def piecesFrom (depth : Nat) (q : Quoting) (current : List Char) (code : List Char) : List (List Char) :=
  match code with
  | [] => piece current
  | c :: cs =>
    if q ≠ .outside ∨ c = '"' then piecesFrom depth (q.next c) (current ++ [c]) cs
    else if c = '\x7b' then
      match _h : closingBrace? cs with
      | some rest =>
        piece (beforeBlock current ++ ['\x7b', '\x7d'] ++ (takeSemicolon rest).1) ++
          piecesFrom depth q [] (takeSemicolon rest).2
      | none => piece current ++ [['\x7b']] ++ piecesFrom depth q [] cs
    else if c = '\x7d' then
      piece current ++ piece ('\x7d' :: (takeSemicolon cs).1) ++ piecesFrom depth q [] (takeSemicolon cs).2
    else if c = ';' ∧ depth = 0 then piece (current ++ [';']) ++ piecesFrom depth q [] cs
    else
      let depth := if c = '(' then depth + 1 else if c = ')' then depth - 1 else depth
      piecesFrom depth q (current ++ [c]) cs
termination_by code.length
decreasing_by
  · simp
  · have := length_closingBrace? _h
    have := length_takeSemicolon rest
    simp only [List.length_cons]
    omega
  · simp
  · have := length_takeSemicolon cs
    simp only [List.length_cons]
    omega
  · simp
  · simp

/-- The pieces of one line of code. -/
def pieces (code : List Char) : List (List Char) :=
  piecesFrom 0 .outside [] code

/-! ## Lines -/

/-- Whether a comment is a block that is not closed on its line. -/
def leavesBlockOpen (comment : List Char) : Bool :=
  ['/', '*'].isPrefixOf comment && !Text.hasInfix ['*', '/'] comment

/-- The lines of these pieces, the last of which gets the comment. -/
def withComment (comment : List Char) : List (List Char) → List Line
  | [] => [⟨[], comment⟩]
  | [last] => [⟨last, comment⟩]
  | first :: rest => ⟨first, []⟩ :: withComment comment rest

/-- The output lines of one line that starts outside comments. -/
def linesOf (code comment : List Char) : List Line :=
  if code.head? = some '#' then [⟨collapse code, comment⟩] else withComment comment (pieces code)

/-- The output lines of source lines, the first of which starts in a block comment or not. -/
def linesFrom (inBlock : Bool) : List (List Char) → List Line
  | [] => []
  | raw :: rest =>
    if inBlock then
      let comment := Text.trim raw
      ⟨[], comment⟩ :: linesFrom (!Text.hasInfix ['*', '/'] comment) rest
    else
      let (code, comment) := splitComment .outside raw
      let comment := Text.trim comment
      linesOf (Text.trim code) comment ++ linesFrom (leavesBlockOpen comment) rest

/-- The output lines of a text. -/
def splitText (text : List Char) : List Line :=
  linesFrom false (Text.splitLines text)

end ShaderAnalysis.Format
