import ShaderAnalysis.Proofs.Format.Steady

/-!
# Closing braces

An opening brace stands alone on its line or in an empty block (`mem_blocks_of_mem_formattedLines`). Balanced lines
leave the level as it was, but for each empty block that a semicolon ends, which is never closed
(`AreBalanced.level_behind`). So a closing brace stands as deep as the one it closes exactly if no such block stands
between them and the code in front of it needs no body (`closing_brace_aligned_iff`).
-/

namespace ShaderAnalysis.Format

open Text

/-! ## Opening braces -/

/-- Where nothing stands in front of an empty block. -/
theorem beforeBlock_of_ink {current : List Char} (empty : ink current = []) : beforeBlock current = [] := by
  have blank : AreBlank current := by simpa [ink, AreBlank] using empty
  have nothing : trimEnd current = [] := by simpa using trimEnd_append blank isTrimmed_nil.last
  simp [beforeBlock, nothing]

theorem head?_ink {cs : List Char} (trimmed : IsTrimmed cs) : (ink cs).head? = cs.head? := by
  cases cs with
  | nil => rfl
  | cons c cs => simp [ink, trimmed.first c rfl]

/-- A piece starts with the first ink of its code. -/
theorem head?_of_mem_piece {current p : List Char} (mem : p ∈ piece current) : p.head? = (ink current).head? := by
  simp only [piece] at mem
  split at mem
  · cases mem
  · rw [List.mem_singleton.1 mem, ← head?_ink (isTrimmed_trim current), ink_trim]

/-- The contents that start with an opening brace. -/
def blocks : List (List Char) :=
  [['\x7b'], ['\x7b', '\x7d'], ['\x7b', '\x7d', ';']]

/-- A piece of code that starts with something else does not start with an opening brace. -/
theorem head?_ne_of_mem_piece {current p : List Char} (first : (ink current).head? ≠ some '\x7b')
    (mem : p ∈ piece current) : p.head? ≠ some '\x7b' := by
  rwa [head?_of_mem_piece mem]

theorem head?_ink_concat {current : List Char} (first : (ink current).head? ≠ some '\x7b') {c : Char}
    (other : c ≠ '\x7b') : (ink (current ++ [c])).head? ≠ some '\x7b' := by
  rw [ink_append]
  cases inked : ink current with
  | nil =>
    intro equal
    have mem : '\x7b' ∈ ink [c] := List.mem_of_head? equal
    exact other (List.mem_singleton.1 (List.mem_of_mem_filter mem)).symm
  | cons d ds => rwa [inked] at first

/-- Where nothing stands in front of an empty block, the block and its semicolon are the whole piece. -/
theorem mem_blocks_of_mem_piece_block {current rest p : List Char} (first : (ink current).head? ≠ some '\x7b')
    (mem : p ∈ piece (beforeBlock current ++ ['\x7b', '\x7d'] ++ (takeSemicolon rest).1))
    (opens : p.head? = some '\x7b') : p ∈ blocks := by
  cases inked : ink current with
  | nil =>
    rw [beforeBlock_of_ink inked] at mem
    have whole : ∀ semicolon ∈ semicolons, ∀ p ∈ piece ([] ++ ['\x7b', '\x7d'] ++ semicolon), p ∈ blocks := by
      decide +kernel
    exact whole _ (takeSemicolon_fst_mem rest) p mem
  | cons d ds =>
    refine absurd opens (head?_ne_of_mem_piece ?_ mem)
    rw [inked] at first
    rwa [List.append_assoc, ink_append, ink_beforeBlock, inked]

/-- A piece never starts with a brace that more code follows. Behind blanks literals are closed, so that a brace
ends the piece. -/
theorem mem_blocks_of_mem_piecesFrom {depth : Nat} {q : Quoting} {current code p : List Char}
    (first : (ink current).head? ≠ some '\x7b') (closed : ink current = [] → q = .outside)
    (mem : p ∈ piecesFrom depth q current code) (opens : p.head? = some '\x7b') : p ∈ blocks := by
  fun_induction piecesFrom depth q current code with
  | case1 => exact absurd opens (head?_ne_of_mem_piece first mem)
  | case2 depth q current c cs quoted ih =>
    cases inked : ink current with
    | nil =>
      obtain rfl : c = '"' := quoted.resolve_left fun inside => inside (closed inked)
      have quote : ink (current ++ ['"']) = ['"'] := by
        rw [ink_append, inked]
        decide
      exact ih (by rw [quote]; decide) (fun empty => absurd (quote.symm.trans empty) (by decide)) mem
    | cons d ds =>
      have kept : ink (current ++ [c]) = d :: (ds ++ ink [c]) := by rw [ink_append, inked, List.cons_append]
      rw [inked] at first
      exact ih (by rwa [kept]) (fun empty => absurd (kept.symm.trans empty) (List.cons_ne_nil _ _)) mem
  | case3 depth q current cs rest found outside ih =>
    obtain rfl : q = .outside := by simpa using outside
    rcases List.mem_append.1 mem with mem | mem
    · exact mem_blocks_of_mem_piece_block first mem opens
    · exact ih (by decide) (fun _ => rfl) mem
  | case4 depth q current cs _ outside ih =>
    obtain rfl : q = .outside := by simpa using outside
    rcases List.mem_append.1 mem with mem | mem
    · rcases List.mem_append.1 mem with mem | mem
      · exact absurd opens (head?_ne_of_mem_piece first mem)
      · exact List.mem_singleton.1 mem ▸ List.mem_cons_self
    · exact ih (by decide) (fun _ => rfl) mem
  | case5 depth q current cs outside _ ih =>
    obtain rfl : q = .outside := by simpa using outside
    rcases List.mem_append.1 mem with mem | mem
    · rcases List.mem_append.1 mem with mem | mem
      · exact absurd opens (head?_ne_of_mem_piece first mem)
      · have brace : ink ['\x7d'] = ['\x7d'] := by decide
        exact absurd opens (head?_ne_of_mem_piece (by rw [ink_cons, brace]; simp) mem)
    · exact ih (by decide) (fun _ => rfl) mem
  | case6 depth q current c cs outside _ _ ends ih =>
    obtain ⟨rfl, quote⟩ : q = .outside ∧ c ≠ '"' := by simpa [not_or] using outside
    rcases List.mem_append.1 mem with mem | mem
    · exact absurd opens (head?_ne_of_mem_piece (head?_ink_concat first (by decide)) mem)
    · exact ih (by decide) (fun _ => rfl) mem
  | case7 depth q current c cs outside brace _ _ _ ih =>
    obtain ⟨rfl, quote⟩ : q = .outside ∧ c ≠ '"' := by simpa [not_or] using outside
    exact ih (head?_ink_concat first brace) (fun _ => rfl) mem

theorem mem_withComment {comment : List Char} {parts : List (List Char)} {line : Line}
    (mem : line ∈ withComment comment parts) : line.content = [] ∨ line.content ∈ parts := by
  fun_induction withComment comment parts with
  | case1 => exact .inl (congrArg Line.content (List.mem_singleton.1 mem))
  | case2 last => exact .inr (List.mem_singleton.2 (congrArg Line.content (List.mem_singleton.1 mem)))
  | case3 first others _ ih =>
    rcases List.mem_cons.1 mem with rfl | mem
    · exact .inr List.mem_cons_self
    · exact (ih mem).imp_right (List.mem_cons_of_mem first)

theorem mem_blocks_of_mem_linesFrom {inBlock : Bool} {raws : List (List Char)} {line : Line}
    (mem : line ∈ linesFrom inBlock raws) (opens : line.content.head? = some '\x7b') : line.content ∈ blocks := by
  induction raws generalizing inBlock with
  | nil => cases mem
  | cons raw raws ih =>
    cases inBlock with
    | true =>
      rcases List.mem_cons.1 mem with rfl | mem
      · cases opens
      · exact ih mem
    | false =>
      rcases List.mem_append.1 mem with mem | mem
      · unfold linesOf at mem
        split at mem
        · rename_i directive
          rw [List.mem_singleton.1 mem, head?_collapse (isTrimmed_trim _), directive] at opens
          cases opens
        · rcases mem_withComment mem with empty | mem
          · rw [empty] at opens
            cases opens
          · exact mem_blocks_of_mem_piecesFrom (by decide) (fun _ => rfl) mem opens
      · exact ih mem

/-- Spacing leaves an opening brace and an empty block as they are. -/
theorem mem_blocks_of_mem_formattedLines {text : List Char} {line : Line} (mem : line ∈ formattedLines text)
    (opens : opensBlock line.content = true) : line.content ∈ blocks := by
  have kept : ∀ content ∈ blocks, respaceContent content = content := by decide +kernel
  obtain ⟨line, inLines, rfl⟩ := List.mem_map.1 mem
  obtain ⟨inBlock, isRead⟩ := (areRead_splitText text).exists_isRead line inLines
  rw [opensBlock, beq_iff_eq, Line.respaced, head?_respaceContent isRead.content] at opens
  have block := mem_blocks_of_mem_linesFrom inLines opens
  rwa [Line.respaced, kept _ block]

/-! ## Balanced lines -/

/-- Whether the content opens a block and leaves it open. -/
def isOpening (content : List Char) : Bool :=
  opensBlock content && !startsWith content "\x7b\x7d"

/-- Whether the content is an empty block that a semicolon ends. It starts with an opening brace, but does not end
with a closing one. -/
def isEndedBlock (content : List Char) : Bool :=
  content == ['\x7b', '\x7d', ';']

/-- Lines whose blocks are closed, the last one that was opened first. -/
inductive AreBalanced : List Line → Prop
  | nil : AreBalanced []
  | line {line : Line} {rest : List Line} (opens : isOpening line.content = false)
      (closes : closesBlock line.content = false) (further : AreBalanced rest) : AreBalanced (line :: rest)
  | block {opener closer : Line} {inner rest : List Line} (opens : isOpening opener.content = true)
      (closes : closesBlock closer.content = true) (balanced : AreBalanced inner) (further : AreBalanced rest) :
      AreBalanced (opener :: inner ++ closer :: rest)

theorem closesBlock_of_isOpening {content : List Char} (opens : isOpening content = true) :
    closesBlock content = false := by
  simp only [isOpening, opensBlock, Bool.and_eq_true, beq_iff_eq] at opens
  rw [closesBlock, opens.1]
  decide

theorem opensBlock_of_closesBlock {content : List Char} (closes : closesBlock content = true) :
    opensBlock content = false := by
  rw [closesBlock, beq_iff_eq] at closes
  rw [opensBlock, closes]
  decide

theorem isEndedBlock_of_isOpening {content : List Char} (opens : isOpening content = true) :
    isEndedBlock content = false := by
  rw [← Bool.not_eq_true, isEndedBlock, beq_iff_eq]
  rintro rfl
  exact absurd opens (by decide)

theorem isEndedBlock_of_closesBlock {content : List Char} (closes : closesBlock content = true) :
    isEndedBlock content = false := by
  rw [← Bool.not_eq_true, isEndedBlock, beq_iff_eq]
  rintro rfl
  exact absurd closes (by decide)

/-- Lines that a closing brace may follow: one of them opens a block, and those behind it are balanced. -/
def HasOpener (before : List Line) : Prop :=
  ∃ outer opener inner, before = outer ++ opener :: inner ∧ isOpening opener.content = true ∧ AreBalanced inner

theorem HasOpener.append {before : List Line} (h : HasOpener before) (lines : List Line) :
    HasOpener (lines ++ before) := by
  obtain ⟨outer, opener, inner, rfl, found⟩ := h
  exact ⟨lines ++ outer, opener, inner, (List.append_assoc ..).symm, found⟩

/-- Every closing brace of balanced lines closes a block. -/
theorem AreBalanced.hasOpener {lines : List Line} (balanced : AreBalanced lines) {before after : List Line}
    {closer : Line} (equal : lines = before ++ closer :: after) (closes : closesBlock closer.content = true) :
    HasOpener before := by
  induction balanced generalizing before after with
  | nil => simp at equal
  | @line line rest _ other _ ih =>
    cases before with
    | nil =>
      obtain ⟨rfl, -⟩ := List.cons.inj equal
      exact absurd (closes.symm.trans other) (by decide)
    | cons _ before =>
      obtain ⟨rfl, behind⟩ := List.cons.inj equal
      exact (ih behind).append [line]
  | @block opener closer' inner rest opens _ balanced _ ih ih' =>
    cases before with
    | nil =>
      obtain ⟨rfl, -⟩ := List.cons.inj equal
      exact absurd (closes.symm.trans (closesBlock_of_isOpening opens)) (by decide)
    | cons _ before =>
      obtain ⟨rfl, tails⟩ := List.cons.inj equal
      -- the brace closes the block or stands behind it, or it stands in the block
      rcases List.append_eq_append_iff.1 tails with ⟨more, rfl, behind⟩ | ⟨more, rfl, behind⟩
      · cases more with
        | nil => exact ⟨[], opener, inner, by simp, opens, balanced⟩
        | cons _ more =>
          obtain ⟨rfl, further⟩ := List.cons.inj behind
          simpa using (ih' further).append (opener :: inner ++ [closer'])
      · cases more with
        | nil => exact ⟨[], opener, before, rfl, opens, by simpa using balanced⟩
        | cons _ more =>
          obtain ⟨rfl, -⟩ := List.cons.inj behind
          exact (ih rfl).append [opener]

/-! ## Levels -/

/-- The state behind lines. -/
def Nesting.behind (n : Nesting) (lines : List Line) : Nesting :=
  lines.foldl (fun n line => n.after line.content) n

@[simp] theorem Nesting.behind_nil (n : Nesting) : n.behind [] = n := rfl

@[simp] theorem Nesting.behind_cons (n : Nesting) (line : Line) (lines : List Line) :
    n.behind (line :: lines) = (n.after line.content).behind lines := rfl

@[simp] theorem Nesting.behind_append (n : Nesting) (lines lines' : List Line) :
    n.behind (lines ++ lines') = (n.behind lines).behind lines' :=
  List.foldl_append

/-- A line that is no directive, and on which no code stands behind an opening brace. -/
structure Line.IsCode (line : Line) : Prop where
  directive : line.content.head? ≠ some '#'
  block : opensBlock line.content = true → line.content ∈ blocks

theorem startsWith_eq_false {content : List Char} {start : String} {c : Char} (first : start.toList.head? = some c)
    (other : content.head? ≠ some c) : startsWith content start = false := by
  rw [← Bool.not_eq_true, startsWith, List.isPrefixOf_iff_prefix]
  rintro ⟨rest, equal⟩
  refine other ?_
  rw [← equal, List.head?_append, first, Option.some_or]

theorem Line.IsCode.outdents_eq {line : Line} (code : line.IsCode) :
    outdents line.content = closesBlock line.content := by
  have directive (start : String) (first : start.toList.head? = some '#') : startsWith line.content start = false :=
    startsWith_eq_false first code.directive
  simp [outdents, directive "#elif" rfl, directive "#else" rfl, directive "#endif" rfl]

theorem Line.IsCode.indents_eq {line : Line} (code : line.IsCode) :
    indents line.content = (isOpening line.content || isEndedBlock line.content) := by
  have directive (start : String) (first : start.toList.head? = some '#') : startsWith line.content start = false :=
    startsWith_eq_false first code.directive
  have up : indents line.content = (opensBlock line.content && !isInlineBlock line.content) := by
    simp [indents, directive "#if" rfl, directive "#elif" rfl, directive "#else" rfl]
  rw [up]
  by_cases opens : opensBlock line.content = true
  · have same : ∀ content ∈ blocks,
        (opensBlock content && !isInlineBlock content) = (isOpening content || isEndedBlock content) := by decide
    exact same _ (code.block opens)
  · have ended : isEndedBlock line.content = false := by
      rw [← Bool.not_eq_true, isEndedBlock, beq_iff_eq]
      intro equal
      exact opens (by rw [equal]; decide)
    rw [Bool.not_eq_true] at opens
    simp [isOpening, opens, ended]

/-- A brace that is left open adds a level, and so does an empty block that a semicolon ends. -/
theorem Line.IsCode.level_after {line : Line} (code : line.IsCode) (n : Nesting) :
    (n.after line.content).level = (if closesBlock line.content then n.level - 1 else n.level) +
      if isOpening line.content || isEndedBlock line.content then 1 else 0 := by
  rw [Nesting.after, Nesting.levelAt, code.outdents_eq, code.indents_eq]

theorem Line.IsCode.level_after_opener {line : Line} (code : line.IsCode) (opens : isOpening line.content = true)
    (n : Nesting) : (n.after line.content).level = n.level + 1 := by
  rw [code.level_after, closesBlock_of_isOpening opens, opens]
  rfl

theorem Line.IsCode.level_after_closer {line : Line} (code : line.IsCode) (closes : closesBlock line.content = true)
    (n : Nesting) : (n.after line.content).level = n.level - 1 := by
  rw [code.level_after, if_pos closes, isOpening, opensBlock_of_closesBlock closes, isEndedBlock_of_closesBlock closes]
  rfl

/-- Balanced lines leave the level as it was, but for the empty blocks that a semicolon ends. -/
theorem AreBalanced.level_behind {lines : List Line} (balanced : AreBalanced lines)
    (code : ∀ line ∈ lines, line.IsCode) (n : Nesting) :
    (n.behind lines).level = n.level + lines.countP (isEndedBlock ·.content) := by
  induction balanced generalizing n with
  | nil => rfl
  | line opens closes _ ih =>
    obtain ⟨here, there⟩ := List.forall_mem_cons.1 code
    rw [Nesting.behind_cons, ih there, here.level_after, closes, opens, List.countP_cons, Bool.false_or,
      if_neg (by decide)]
    omega
  | @block opener closer inner rest opens closes _ _ ih ih' =>
    obtain ⟨here, there⟩ := List.forall_mem_cons.1 code
    obtain ⟨inside, behind⟩ := List.forall_mem_append.1 there
    obtain ⟨here', behind⟩ := List.forall_mem_cons.1 behind
    have level : (((n.after opener.content).behind inner).after closer.content).level =
        n.level + inner.countP (isEndedBlock ·.content) := by
      rw [here'.level_after_closer closes, ih inside, here.level_after_opener opens]
      omega
    rw [List.cons_append, Nesting.behind_cons, Nesting.behind_append, Nesting.behind_cons, ih' behind, level]
    simp only [List.countP_cons, List.countP_append, isEndedBlock_of_isOpening opens,
      isEndedBlock_of_closesBlock closes, Bool.false_eq_true, if_false]
    omega

/-- The content of the last line that has one. -/
def lastContent (lines : List Line) : List Char :=
  ((lines.map (·.content)).filter (!·.isEmpty)).getLast?.getD []

theorem previous_behind (n : Nesting) (lines : List Line) : (n.behind lines).previous =
    ((lines.map (·.content)).filter (!·.isEmpty)).getLast?.getD n.previous := by
  induction lines generalizing n with
  | nil => rfl
  | cons line lines ih =>
    rw [Nesting.behind_cons, ih, List.map_cons, List.filter_cons, Nesting.after]
    cases line.content.isEmpty with
    | true => rfl
    | false => simp [List.getLast?_cons]

/-! ## Lines of the formatted text -/

/-- The state in front of a text. -/
def Nesting.start : Nesting :=
  ⟨0, []⟩

theorem length_indentFrom (tabSize : Nat) (n : Nesting) (lines : List Line) :
    (indentFrom tabSize n lines).length = lines.length := by
  induction lines generalizing n with
  | nil => rfl
  | cons line lines ih => rw [indentFrom, List.length_cons, ih, List.length_cons]

/-- A line that is not empty stays where it is when lines are joined. -/
theorem getElem?_splitLines_joinLines {lines : List (List Char)} (flat : ∀ line ∈ lines, '\n' ∉ line) {i : Nat}
    {line : List Char} (here : lines[i]? = some line) (nonempty : line ≠ []) :
    (splitLines (joinLines lines))[i]? = some line := by
  obtain ⟨kept, j, k, equal, split⟩ := exists_splitLines_joinLines flat
  rw [equal] at here
  rw [split]
  by_cases short : i < kept.length
  · rwa [List.getElem?_append_left short] at here ⊢
  · rw [List.getElem?_append_right (Nat.le_of_not_lt short)] at here
    exact absurd (List.eq_of_mem_replicate (List.mem_of_getElem? here)) nonempty

/-- A line with content stands in the formatted text behind the spaces that the lines before it ask for. -/
theorem exists_line_formatChars {text : List Char} (tabSize : Nat) {before after : List Line} {line : Line}
    (lines : formattedLines text = before ++ line :: after) (content : line.content ≠ []) :
    ∃ rest, (splitLines (formatChars text tabSize))[before.length]? =
      some (spaces ((Nesting.start.behind before).indentOf line.content * clampTabSize tabSize) ++ line.content ++
        rest) := by
  generalize level : (Nesting.start.behind before).indentOf line.content * clampTabSize tabSize = indent
  have flat : ∀ cs ∈ indentLines (clampTabSize tabSize) (formattedLines text), '\n' ∉ cs := fun cs mem feed =>
    (isFlat_of_mem_indentFrom _ _ (areRead_formattedLines text) cs mem _ feed).1 rfl
  have laidOut : ∃ rest, layOut (clampTabSize tabSize) indent line = spaces indent ++ line.content ++ rest := by
    rw [layOut, if_neg (by simp [content])]
    exact ⟨_, List.append_assoc ..⟩
  obtain ⟨rest, laidOut⟩ := laidOut
  refine ⟨rest, ?_⟩
  rw [formatChars_eq, ← laidOut]
  refine getElem?_splitLines_joinLines flat ?_ (by simp [laidOut, content])
  rw [lines, indentLines, indentFrom_append, List.getElem?_append_right (by rw [length_indentFrom]),
    length_indentFrom, Nat.sub_self, ← level]
  rfl

/-! ## Closing braces -/

theorem isCode_of_mem_formattedLines {text : List Char}
    (plain : ∀ line ∈ formattedLines text, line.content.head? ≠ some '#') {line : Line}
    (mem : line ∈ formattedLines text) : line.IsCode :=
  ⟨plain line mem, mem_blocks_of_mem_formattedLines mem⟩

theorem Line.IsCode.indentOf_opener {opener : Line} (code : opener.IsCode) (opens : isOpening opener.content = true)
    (n : Nesting) : n.indentOf opener.content = n.level := by
  rw [Nesting.indentOf, if_pos (Bool.and_eq_true_iff.1 opens).1, Nesting.levelAt, code.outdents_eq,
    closesBlock_of_isOpening opens]
  rfl

theorem Line.IsCode.indentOf_closer {closer : Line} (code : closer.IsCode)
    (closes : closesBlock closer.content = true) (n : Nesting) :
    n.indentOf closer.content = n.level - 1 + if hasUnbracedBody n.previous then 1 else 0 := by
  have first := beq_iff_eq.1 closes
  rw [Nesting.indentOf, opensBlock_of_closesBlock closes, Nesting.levelAt, code.outdents_eq, closes, first]
  rfl

/-- What stands in front of a closing brace needs a body if the last content of the block does. -/
theorem hasUnbracedBody_previous {opener : Line} (code : opener.IsCode) (opens : isOpening opener.content = true)
    (inner : List Line) (n : Nesting) :
    hasUnbracedBody (n.behind (opener :: inner)).previous = hasUnbracedBody (lastContent inner) := by
  have alone : ∀ content ∈ blocks, content.isEmpty = false ∧ hasUnbracedBody content = hasUnbracedBody [] := by decide
  obtain ⟨nonempty, bodiless⟩ := alone _ (code.block (Bool.and_eq_true_iff.1 opens).1)
  have opened : (n.after opener.content).previous = opener.content := by rw [Nesting.after, nonempty]; rfl
  rw [Nesting.behind_cons, previous_behind, opened, lastContent]
  cases ((inner.map (·.content)).filter (!·.isEmpty)).getLast? with
  | none => exact bodiless
  | some content => rfl

/-- How much deeper a closing brace stands than the one it closes. -/
theorem indentOf_closer_eq {opener closer : Line} {inner : List Line} (opens : isOpening opener.content = true)
    (closes : closesBlock closer.content = true) (balanced : AreBalanced inner)
    (code : ∀ line ∈ opener :: (inner ++ [closer]), line.IsCode) (n : Nesting) :
    (n.behind (opener :: inner)).indentOf closer.content = n.indentOf opener.content +
      (inner.countP (isEndedBlock ·.content) + if hasUnbracedBody (lastContent inner) then 1 else 0) := by
  obtain ⟨here, there⟩ := List.forall_mem_cons.1 code
  obtain ⟨inside, here'⟩ := List.forall_mem_append.1 there
  rw [(List.forall_mem_singleton.1 here').indentOf_closer closes, hasUnbracedBody_previous here opens,
    here.indentOf_opener opens, Nesting.behind_cons, balanced.level_behind inside, here.level_after_opener opens]
  omega

end ShaderAnalysis.Format

namespace ShaderAnalysis

open Format Text

/-- In balanced lines without directives, a closing brace stands as deep as the one it closes exactly if no empty
block that a semicolon ends stands between them, and the last code between them does not ask for a body. -/
theorem closing_brace_aligned_iff {text : String}
    (plain : ∀ line ∈ formattedLines text.toList, line.content.head? ≠ some '#')
    (balanced : AreBalanced (formattedLines text.toList)) (tabSize : Nat) {before after : List Line} {closer : Line}
    (lines : formattedLines text.toList = before ++ closer :: after) (closes : closesBlock closer.content = true) :
    ∃ outer opener inner, before = outer ++ opener :: inner ∧ isOpening opener.content = true ∧ AreBalanced inner ∧
      ∃ indent indent' rest rest',
        (splitLines (formatCode text tabSize).toList)[outer.length]? =
          some (spaces indent ++ opener.content ++ rest) ∧
        (splitLines (formatCode text tabSize).toList)[before.length]? =
          some (spaces indent' ++ closer.content ++ rest') ∧
        (indent' = indent ↔ (∀ line ∈ inner, isEndedBlock line.content = false) ∧
          hasUnbracedBody (lastContent inner) = false) := by
  obtain ⟨outer, opener, inner, rfl, opens, inside⟩ := balanced.hasOpener lines closes
  refine ⟨outer, opener, inner, rfl, opens, inside, ?_⟩
  have code : ∀ line ∈ outer ++ (opener :: (inner ++ [closer])) ++ after, line.IsCode := by
    intro line mem
    exact isCode_of_mem_formattedLines plain (by rw [lines]; simpa using mem)
  have deeper := indentOf_closer_eq opens closes inside
    (List.forall_mem_append.1 (List.forall_mem_append.1 code).1).2 (Nesting.start.behind outer)
  have nonempty {content : List Char} {c : Char} (first : (content.head? == some c) = true) : content ≠ [] := by
    rintro rfl
    cases first
  have lines' : formattedLines text.toList = outer ++ opener :: (inner ++ closer :: after) := by simp [lines]
  obtain ⟨rest, first⟩ := exists_line_formatChars tabSize lines' (nonempty (Bool.and_eq_true_iff.1 opens).1)
  obtain ⟨rest', last⟩ := exists_line_formatChars tabSize lines (nonempty closes)
  rw [formatCode, String.toList_ofList]
  refine ⟨_, _, rest, rest', first, last, ?_⟩
  rw [Nesting.behind_append, deeper, Nat.mul_left_inj (clampTabSize_pos tabSize).ne', Nat.add_eq_left,
    Nat.add_eq_zero_iff, List.countP_eq_zero]
  simp

theorem closing_brace_aligned_body :
    ((∀ line ∈ formattedLines "if (a) \x7b b; \x7d".toList, line.content.head? ≠ some '#') ∧
        AreBalanced (formattedLines "if (a) \x7b b; \x7d".toList)) ∧
      ∃ indent rest rest',
        (splitLines (formatCode "if (a) \x7b b; \x7d" 4).toList)[1]? = some (spaces indent ++ ['\x7b'] ++ rest) ∧
        (splitLines (formatCode "if (a) \x7b b; \x7d" 4).toList)[3]? = some (spaces indent ++ ['\x7d'] ++ rest') := by
  have lines : formattedLines "if (a) \x7b b; \x7d".toList =
      [⟨"if (a)".toList, []⟩, ⟨['\x7b'], []⟩, ⟨"b;".toList, []⟩] ++ ⟨['\x7d'], []⟩ :: [] := by decide +kernel
  have plain : ∀ line ∈ formattedLines "if (a) \x7b b; \x7d".toList, line.content.head? ≠ some '#' := by
    rw [lines]
    decide
  have balanced : AreBalanced (formattedLines "if (a) \x7b b; \x7d".toList) := by
    rw [lines]
    exact .line rfl rfl (.block rfl rfl (.line rfl rfl .nil) .nil)
  refine ⟨⟨plain, balanced⟩, ?_⟩
  obtain ⟨outer, opener, inner, equal, opens, -, indent, indent', rest, rest', first, last, aligned⟩ :=
    closing_brace_aligned_iff plain balanced 4 lines rfl
  -- only the second line opens a block
  rcases outer with _ | ⟨_, _ | ⟨_, _ | ⟨_, outer⟩⟩⟩
  · cases equal
    exact absurd opens (by decide)
  · cases equal
    obtain rfl := aligned.2 (by decide)
    exact ⟨indent', rest, rest', first, last⟩
  · cases equal
    exact absurd opens (by decide)
  · simp at equal

/-- A call of a macro without a semicolon takes the closing brace behind it for the body of the loop. -/
theorem closing_brace_stray :
    (∀ line ∈ formattedLines "\x7b\nfor (;;) STEP(i)\n\x7d".toList, line.content.head? ≠ some '#') ∧
      AreBalanced (formattedLines "\x7b\nfor (;;) STEP(i)\n\x7d".toList) ∧
      formatCode "\x7b\nfor (;;) STEP(i)\n\x7d" 4 = "\x7b\n    for (;;) STEP(i)\n    \x7d\n" := by
  have lines : formattedLines "\x7b\nfor (;;) STEP(i)\n\x7d".toList =
      [⟨['\x7b'], []⟩, ⟨"for (;;) STEP(i)".toList, []⟩, ⟨['\x7d'], []⟩] := by decide +kernel
  rw [lines]
  exact ⟨by decide, .block rfl rfl (.line rfl rfl .nil) .nil, by decide +kernel⟩

end ShaderAnalysis
