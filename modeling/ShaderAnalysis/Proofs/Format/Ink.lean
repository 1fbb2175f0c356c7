import ShaderAnalysis.Format.Code

/-!
# Formatting keeps the ink

The ink of a text are its characters that are not blank. Each stage of formatting is followed by what
it leaves of the ink: the split into code and comment, the pieces of code, the tokens of a piece and
the indented lines. None of them adds, drops or moves a character of it (`ink_formatCode`).
-/

namespace ShaderAnalysis

namespace Text

/-- The characters that are not blank. -/
def ink (cs : List Char) : List Char :=
  cs.filter fun c => !isBlank c

@[simp] theorem ink_nil : ink [] = [] := rfl

@[simp] theorem ink_append (cs ds : List Char) : ink (cs ++ ds) = ink cs ++ ink ds :=
  List.filter_append cs ds

theorem ink_cons (c : Char) (cs : List Char) : ink (c :: cs) = ink [c] ++ ink cs :=
  ink_append [c] cs

theorem ink_cons_of_isBlank {c : Char} (h : isBlank c = true) (cs : List Char) : ink (c :: cs) = ink cs := by
  simp [ink, h]

theorem ink_reverse (cs : List Char) : ink cs.reverse = (ink cs).reverse :=
  List.filter_reverse

theorem ink_flatMap {α : Type} (f : α → List Char) (xs : List α) :
    ink (xs.flatMap f) = xs.flatMap fun x => ink (f x) := by
  induction xs with
  | nil => rfl
  | cons x xs ih => simp [ih]

/-- Only blanks are dropped from the front. -/
theorem ink_dropWhile {p : Char → Bool} (hp : ∀ c, p c = true → isBlank c = true) (cs : List Char) :
    ink (cs.dropWhile p) = ink cs := by
  induction cs with
  | nil => rfl
  | cons c cs ih =>
    rw [List.dropWhile_cons]
    split
    · rw [ih, ink_cons_of_isBlank (hp c ‹_›)]
    · rfl

theorem ink_trimEndWhile {p : Char → Bool} (hp : ∀ c, p c = true → isBlank c = true) (cs : List Char) :
    ink (trimEndWhile p cs) = ink cs := by
  rw [trimEndWhile, ink_reverse, ink_dropWhile hp, ink_reverse, List.reverse_reverse]

@[simp] theorem ink_trimEnd (cs : List Char) : ink (trimEnd cs) = ink cs :=
  ink_trimEndWhile (fun _ h => h) cs

@[simp] theorem ink_trim (cs : List Char) : ink (trim cs) = ink cs := by
  rw [trim, ink_trimEnd, trimStart, ink_dropWhile fun _ h => h]

/-- A text split at blanks keeps its ink, piece by piece. -/
theorem flatMap_ink_splitWhere {p : Char → Bool} (hp : ∀ c, p c = true → isBlank c = true) (cs : List Char) :
    (splitWhere p cs).flatMap ink = ink cs := by
  induction cs with
  | nil => rfl
  | cons c cs ih =>
    rw [splitWhere]
    split
    · rw [List.flatMap_cons, ih, ink_nil, List.nil_append, ink_cons_of_isBlank (hp c ‹_›)]
    · rw [ink_cons, ← ih]
      split
      · rename_i equal
        rw [equal]
        rfl
      · rename_i first rest equal
        rw [equal, List.flatMap_cons, List.flatMap_cons, ink_cons c first, List.append_assoc]

end Text

namespace Format

open Text

/-! ## Code and comments -/

/-- The split at a comment cuts the line in two. -/
theorem splitComment_append (q : Quoting) (cs : List Char) : (splitComment q cs).1 ++ (splitComment q cs).2 = cs := by
  induction cs generalizing q with
  | nil => rfl
  | cons c cs ih =>
    rw [splitComment]
    split
    · rfl
    · simp [ih]

theorem ink_collapseFrom (q : Quoting) (pending : Bool) (cs : List Char) :
    ink (collapseFrom q pending cs) = ink cs := by
  induction cs generalizing q pending with
  | nil => rfl
  | cons c cs ih =>
    rw [collapseFrom]
    split
    · rename_i blank
      rw [ih, ink_cons_of_isBlank blank.2]
    · split
      · rw [ink_cons_of_isBlank (by decide), ink_cons, ih, ← ink_cons]
      · rw [ink_cons, ih, ← ink_cons]

theorem ink_collapse (cs : List Char) : ink (collapse cs) = ink cs := by
  rw [collapse, ink_collapseFrom, ink_trim]

/-! ## Pieces -/

theorem flatMap_ink_piece (current : List Char) : (piece current).flatMap ink = ink current := by
  simp only [piece]
  split
  · rename_i empty
    rw [← ink_trim current, List.isEmpty_iff.1 empty]
    rfl
  · simp

theorem ink_of_closingBrace? {cs rest : List Char} (h : closingBrace? cs = some rest) :
    ink cs = '\x7d' :: ink rest := by
  have kept := ink_dropWhile (fun _ h => h) cs
  unfold closingBrace? at h
  split at h
  · rename_i equal
    obtain rfl := Option.some.inj h
    rw [← kept, equal, ink_cons]
    rfl
  · cases h

/-- The semicolon that is taken, and what is left. -/
theorem ink_takeSemicolon (cs : List Char) : ink (takeSemicolon cs).1 ++ ink (takeSemicolon cs).2 = ink cs := by
  have kept := ink_dropWhile (fun _ h => h) cs
  unfold takeSemicolon
  split
  · rename_i rest equal
    rw [← kept, equal, ink_cons ';' rest]
  · rfl

theorem ink_beforeBlock (current : List Char) : ink (beforeBlock current) = ink current := by
  simp only [beforeBlock]
  split
  · rename_i empty
    rw [← ink_trimEnd current, List.isEmpty_iff.1 empty]
  · rw [ink_append, ink_trimEnd, show ink [' '] = [] by decide, List.append_nil]

theorem flatMap_ink_piecesFrom (depth : Nat) (q : Quoting) (current code : List Char) :
    (piecesFrom depth q current code).flatMap ink = ink current ++ ink code := by
  fun_induction piecesFrom depth q current code with
  | case1 depth q current => simp [flatMap_ink_piece]
  | case2 depth q current c cs quoted ih => rw [ih, ink_append, List.append_assoc, ← ink_cons]
  | case3 depth q current cs rest closed _ ih =>
    simp only [List.flatMap_append, flatMap_ink_piece, ih, ink_append, ink_beforeBlock, ink_nil, List.nil_append,
      List.append_assoc, ink_takeSemicolon]
    rw [ink_cons _ cs, ink_of_closingBrace? closed]
    rfl
  | case4 depth q current cs _ _ ih =>
    simp only [List.flatMap_append, flatMap_ink_piece, ih, ink_nil, List.nil_append, List.append_assoc]
    rw [ink_cons]
    rfl
  | case5 depth q current cs _ _ ih =>
    simp only [List.flatMap_append, flatMap_ink_piece, ih, ink_nil, List.nil_append, List.append_assoc]
    rw [ink_cons _ (takeSemicolon cs).1, List.append_assoc, ink_takeSemicolon, ← ink_cons]
  | case6 depth q current c cs _ _ _ ends ih =>
    simp only [List.flatMap_append, flatMap_ink_piece, ih, ink_nil, List.nil_append, ink_append, List.append_assoc]
    rw [ends.1, ← ink_cons]
  | case7 depth q current c cs _ _ _ _ _ ih => rw [ih, ink_append, List.append_assoc, ← ink_cons]

/-! ## Lines -/

/-- The ink of a line: of its content, then of its comment. -/
def Line.ink (line : Line) : List Char :=
  Text.ink line.content ++ Text.ink line.comment

theorem flatMap_ink_withComment (comment : List Char) (parts : List (List Char)) :
    (withComment comment parts).flatMap Line.ink = parts.flatMap ink ++ ink comment := by
  fun_induction withComment comment parts with
  | case1 => simp [Line.ink]
  | case2 last => simp [Line.ink]
  | case3 first rest _ ih => simp [Line.ink, ih]

theorem flatMap_ink_linesOf (code comment : List Char) :
    (linesOf code comment).flatMap Line.ink = ink code ++ ink comment := by
  unfold linesOf
  split
  · simp [Line.ink, ink_collapse]
  · rw [flatMap_ink_withComment, pieces, flatMap_ink_piecesFrom, ink_nil, List.nil_append]

theorem flatMap_ink_linesFrom (inBlock : Bool) (raws : List (List Char)) :
    (linesFrom inBlock raws).flatMap Line.ink = raws.flatMap ink := by
  induction raws generalizing inBlock with
  | nil => rfl
  | cons raw raws ih =>
    rw [linesFrom]
    split
    · simp [Line.ink, ih]
    · simp only [List.flatMap_append, flatMap_ink_linesOf, ink_trim, ih, List.flatMap_cons]
      rw [← ink_append, splitComment_append]

theorem flatMap_ink_splitText (text : List Char) : (splitText text).flatMap Line.ink = ink text := by
  rw [splitText, flatMap_ink_linesFrom, splitLines]
  apply flatMap_ink_splitWhere
  intro c equal
  rw [eq_of_beq equal]
  decide

/-! ## Tokens -/

theorem flatMap_ink_tokensFrom (spaced : Bool) (code : List Char) :
    (tokensFrom spaced code).flatMap (fun t => ink t.text) = ink code := by
  fun_induction tokensFrom spaced code with
  | case1 => rfl
  | case2 spaced c cs blank ih => rw [ih, ink_cons_of_isBlank (isBlank_of_isAsciiBlank blank)]
  | case3 spaced c cs _ kind more _ ih =>
    rw [List.flatMap_cons, ih, ← ink_append, List.cons_append, List.take_append_drop]

/-- Only gaps are put between tokens. -/
theorem ink_respaceFrom (prev : Option (Token × Bool)) (ts : List Token) :
    ink (respaceFrom prev ts) = ts.flatMap fun t => ink t.text := by
  induction ts generalizing prev with
  | nil => rfl
  | cons t ts ih =>
    have gap (b : Bool) : ink (if b then [' '] else []) = [] := by cases b <;> decide
    simp only [respaceFrom, ink_append, gap, ih, List.nil_append, List.flatMap_cons]

theorem ink_respaceContent (content : List Char) : ink (respaceContent content) = ink content := by
  unfold respaceContent
  split
  · exact ink_collapse content
  · rw [respace, ink_respaceFrom, tokens, flatMap_ink_tokensFrom]

/-! ## Indentation -/

@[simp] theorem ink_spaces (n : Nat) : ink (spaces n) = [] := by
  induction n with
  | zero => rfl
  | succ n ih => rw [spaces, List.replicate_succ, ink_cons_of_isBlank (by decide)]; exact ih

theorem ink_layOut (tabSize indent : Nat) (line : Line) : ink (layOut tabSize indent line) = line.ink := by
  unfold layOut Line.ink
  split
  · rename_i empty
    simp only [Bool.and_eq_true, List.isEmpty_iff] at empty
    rw [empty.1, empty.2]
    rfl
  · simp only [ink_append, ink_spaces, ink_trimEnd, List.nil_append]
    split <;> simp

theorem flatMap_ink_indentFrom (tabSize : Nat) (n : Nesting) (lines : List Line) :
    (indentFrom tabSize n lines).flatMap ink = lines.flatMap Line.ink := by
  induction lines generalizing n with
  | nil => rfl
  | cons line lines ih => simp only [indentFrom, List.flatMap_cons, ink_layOut, ih]

theorem ink_joinLines (lines : List (List Char)) : ink (joinLines lines) = lines.flatMap ink := by
  have feed : ink ['\n'] = [] := by decide
  have feeds (c : Char) (equal : (c == '\n') = true) : isBlank c = true := by
    rw [eq_of_beq equal]
    decide
  rw [joinLines, ink_append, feed, List.append_nil, ink_trimEndWhile feeds, ink_flatMap]
  simp only [ink_append, feed, List.append_nil]

/-! ## The whole text -/

theorem ink_formatChars (text : List Char) (tabSize : Nat) : ink (formatChars text tabSize) = ink text := by
  have kept (lines : List Line) : (lines.map Line.respaced).flatMap Line.ink = lines.flatMap Line.ink := by
    rw [List.flatMap_map]
    simp only [Line.ink, Line.respaced, ink_respaceContent]
    rfl
  have returns : ink (text.filter (· != '\r')) = ink text := by
    unfold ink
    rw [List.filter_filter]
    congr 1
    funext c
    by_cases h : c = '\r'
    · subst h; decide
    · simp [h]
  rw [formatChars, ink_joinLines, indentLines, flatMap_ink_indentFrom, kept, flatMap_ink_splitText, returns]

end Format

/-- Formatting only moves blanks: the other characters are the same ones in the same order. -/
theorem ink_formatCode (text : String) (tabSize : Nat) :
    Text.ink (formatCode text tabSize).toList = Text.ink text.toList := by
  rw [formatCode, String.toList_ofList, Format.ink_formatChars]

end ShaderAnalysis
