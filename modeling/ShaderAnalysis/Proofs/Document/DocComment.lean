import ShaderAnalysis.Proofs.Document.Position
import ShaderAnalysis.Proofs.Document.Stripped
import ShaderAnalysis.Proofs.Lexical.Window

/-!
# What documentation comments show

A documentation comment is put together from whole lines (`topLine`). What is shown are these lines without some blanks
and marks of comments (`isStripped_commentsAbove`), so that all code on them is shown as well: a documentation comment
consists of comments if and only if the lines do (`above?_shows_lines`).
-/

namespace ShaderAnalysis

namespace DocComment

open Text

/-! ## The lines of a comment -/

/-- The first line of the block comment that ends in a line. -/
def blockTop (d : Document) (line : Nat) : Nat :=
  if hasInfix "/*".toList (lineChars d line) then line
  else
    match line with
    | 0 => 0
    | above + 1 => blockTop d above

/-- The first one of the lines above `line` that are taken for its comment; `line` if there are none. -/
def topLine (d : Document) : Nat → Nat
  | 0 => 0
  | above + 1 =>
    match trim (lineChars d above) with
    | '/' :: '/' :: _ => topLine d above
    | trimmed => if endsBlock trimmed then blockTop d above else above + 1

/-- The lines from `first` on, up to `line`. -/
def linesFrom (d : Document) (first line : Nat) : List (List Char) :=
  (List.range' first (line - first)).map (lineChars d)

theorem linesFrom_succ (d : Document) {first line : Nat} (le : first ≤ line) :
    linesFrom d first (line + 1) = linesFrom d first line ++ [lineChars d line] := by
  rw [linesFrom, Nat.succ_sub le, List.range'_concat, List.map_append, Nat.one_mul, Nat.add_sub_cancel' le]
  rfl

theorem blockLines_eq (d : Document) (line : Nat) :
    blockTop d line ≤ line ∧ (blockLines d line).reverse = linesFrom d (blockTop d line) (line + 1) := by
  have only (line : Nat) : [lineChars d line].reverse = linesFrom d line (line + 1) := by
    rw [linesFrom_succ d (Nat.le_refl line), linesFrom, Nat.sub_self]
    rfl
  fun_induction blockTop d line with
  | case1 line opens =>
    unfold blockLines
    dsimp only
    rw [if_pos opens]
    exact ⟨Nat.le_refl line, only line⟩
  | case2 goesOn =>
    unfold blockLines
    dsimp only
    rw [if_neg goesOn]
    exact ⟨Nat.le_refl 0, only 0⟩
  | case3 above goesOn ih =>
    unfold blockLines
    dsimp only
    rw [if_neg goesOn, List.reverse_cons, ih.2, linesFrom_succ d (Nat.le_succ_of_le ih.1)]
    exact ⟨Nat.le_succ_of_le ih.1, rfl⟩

theorem flatMap_feeds {lines : List (List Char)} (nonempty : lines ≠ []) :
    lines.flatMap (· ++ ['\n']) = join lines ++ ['\n'] := by
  obtain ⟨before, last, rfl⟩ := (List.eq_nil_or_concat' lines).resolve_left nonempty
  rw [join_concat, List.flatMap_append, List.flatMap_singleton, List.append_assoc]

/-- One more line behind the others. -/
theorem isStripped_join_append {pieces lines : List (List Char)} {piece line : List Char}
    (before : IsStripped (join pieces) (join lines)) (none : lines = [] → pieces = []) (last : IsStripped piece line) :
    IsStripped (join (pieces ++ [piece])) (join (lines ++ [line])) := by
  rw [join_concat, join_concat]
  refine IsStripped.append ?_ last
  by_cases empty : lines = []
  · rw [none empty, empty]
    exact isStripped_refl []
  rw [flatMap_feeds empty]
  by_cases gone : pieces = []
  · rw [gone] at before ⊢
    exact before.append isStripped_feed
  · rw [flatMap_feeds gone]
    exact before.append (isStripped_refl ['\n'])

theorem commentsAbove_of_not_slashed {d : Document} {above : Nat}
    (notSlashed : ∀ rest, trim (lineChars d above) ≠ '/' :: '/' :: rest) : commentsAbove d (above + 1) =
      if endsBlock (trim (lineChars d above)) then
        if (blockText (blockLines d above).reverse).isEmpty then [] else [blockText (blockLines d above).reverse]
      else [] := by
  rw [commentsAbove]
  split
  · rename_i rest slashed
    exact absurd slashed (notSlashed rest)
  · dsimp only
    split <;> rfl

/-- What is shown is what is left of the lines. -/
theorem isStripped_commentsAbove (d : Document) (line : Nat) : topLine d line ≤ line ∧
    (topLine d line = line → commentsAbove d line = []) ∧
    IsStripped (join (commentsAbove d line).reverse) (join (linesFrom d (topLine d line) line)) := by
  fun_induction topLine d line with
  | case1 => exact ⟨Nat.le_refl 0, fun _ => rfl, isStripped_refl _⟩
  | case2 above rest slashed ih =>
    obtain ⟨le, none, stripped⟩ := ih
    have step : commentsAbove d (above + 1) = trim rest :: commentsAbove d above := by
      rw [commentsAbove, slashed]
      rfl
    have comment : IsStripped (trim rest) (lineChars d above) := by
      have gone : IsStripped [] ['/', '/'] := isStripped_of_all (by decide)
      have marks := gone.append (isStripped_trim rest)
      have trimmed := isStripped_trim (lineChars d above)
      rw [slashed] at trimmed
      exact marks.trans trimmed
    refine ⟨Nat.le_succ_of_le le, fun same => absurd same (by omega), ?_⟩
    rw [step, List.reverse_cons, linesFrom_succ d le]
    refine isStripped_join_append stripped (fun empty => ?_) comment
    rw [List.reverse_eq_nil_iff]
    apply none
    have length := congrArg List.length empty
    rw [linesFrom, List.length_map, List.length_range', List.length_nil] at length
    omega
  | case3 above notSlashed ends =>
    obtain ⟨le, whole⟩ := blockLines_eq d above
    rw [commentsAbove_of_not_slashed notSlashed, if_pos ends]
    refine ⟨Nat.le_succ_of_le le, fun same => absurd same (by omega), ?_⟩
    have block := isStripped_blockText (blockLines d above).reverse
    rw [whole] at block ⊢
    split
    · rename_i empty
      rwa [List.isEmpty_iff.1 empty] at block
    · rwa [← join_singleton (blockText _)] at block
  | case4 above notSlashed other =>
    rw [commentsAbove_of_not_slashed notSlashed, if_neg other]
    refine ⟨Nat.le_refl _, fun _ => rfl, ?_⟩
    rw [linesFrom, Nat.sub_self]
    exact isStripped_refl []

/-! ## Where the lines stand -/

/-- The text before a line; all of it if there is no such line. -/
def textBefore (d : Document) (line : Nat) : List Char :=
  (splitAtLine isFeed line d.text.toList).elim d.text.toList (·.1)

/-- The characters of a line, with its line feed. -/
def fullLine (d : Document) (line : Nat) : List Char :=
  (d.lineChars? line).getD []

section Lines

variable {d : Document} (indexed : d.IsIndexed)

include indexed

theorem textBefore_succ (line : Nat) : textBefore d (line + 1) = textBefore d line ++ fullLine d line := by
  rw [textBefore, textBefore, fullLine, Document.lineChars?_eq indexed]
  cases here : splitAtLine isFeed line d.text.toList with
  | none =>
    rw [splitAtLine_succ, here]
    exact (List.append_nil _).symm
  | some s =>
    obtain ⟨before, rest⟩ := s
    have whole := append_of_splitAtLine here
    cases there : splitAtLine isFeed (line + 1) d.text.toList with
    | none =>
      rw [splitAtLine_succ, here, Option.bind_some, Option.map_eq_none_iff] at there
      simp only [Option.elim_none, Option.elim_some, Option.map_some, Option.getD_some, firstLine, there, whole]
    | some t =>
      simp only [Option.elim_some, Option.map_some, Option.getD_some, splitAtLine_succ_of_eq here there]

theorem textBefore_add (first count : Nat) : textBefore d (first + count) =
    textBefore d first ++ (List.range' first count).flatMap (fullLine d) := by
  induction count with
  | zero => exact (List.append_nil _).symm
  | succ count ih =>
    rw [← Nat.add_assoc, textBefore_succ indexed, ih, List.range'_concat, Nat.one_mul, List.flatMap_append,
      List.flatMap_singleton, List.append_assoc]

omit indexed in
theorem textBefore_isPrefix (d : Document) (line : Nat) : textBefore d line <+: d.text.toList := by
  rw [textBefore]
  cases here : splitAtLine isFeed line d.text.toList with
  | none => exact List.prefix_rfl
  | some s => exact ⟨s.2, append_of_splitAtLine here⟩

omit indexed in
theorem exists_firstLine (cs : List Char) :
    ∃ content feed, firstLine isFeed cs = content ++ feed ∧ '\n' ∉ content ∧ (feed = [] ∨ feed = ['\n']) := by
  induction cs with
  | nil => exact ⟨[], [], rfl, List.not_mem_nil, .inl rfl⟩
  | cons c cs ih =>
    obtain ⟨content, feed, whole, flat, ends⟩ := ih
    rw [firstLine_cons]
    split
    · rename_i isLast
      exact ⟨[], ['\n'], by rw [eq_of_beq isLast]; rfl, List.not_mem_nil, .inr rfl⟩
    · rename_i goesOn
      refine ⟨c :: content, feed, by rw [whole]; rfl, ?_, ends⟩
      rintro (_ | ⟨_, member⟩)
      · exact goesOn rfl
      · exact flat member

omit indexed in
theorem exists_trimEndWhile (p : Char → Bool) (cs : List Char) :
    ∃ after, cs = trimEndWhile p cs ++ after ∧ ∀ c ∈ after, p c = true := by
  refine ⟨(cs.reverse.takeWhile p).reverse, ?_, fun c member => ?_⟩
  · rw [trimEndWhile, ← List.reverse_append, List.takeWhile_append_dropWhile, List.reverse_reverse]
  · exact List.mem_takeWhile_imp (List.mem_reverse.1 member)

/-- A line is its text, with the carriage returns and the line feed that end it. -/
theorem exists_fullLine (line : Nat) : ∃ returns feed, fullLine d line = lineChars d line ++ returns ++ feed ∧
    '\n' ∉ lineChars d line ++ returns ∧ AreBlank returns ∧ (feed = [] ∨ feed = ['\n']) := by
  have parts : lineChars d line =
      trimEndWhile (· == '\r') (trimEndWhile (· == '\n') (fullLine d line)) := by
    rw [lineChars, Document.lineText?, fullLine]
    cases d.lineChars? line with
    | none => rfl
    | some cs => exact String.toList_ofList
  obtain ⟨content, feed, whole, flat, ends⟩ : ∃ content feed, fullLine d line = content ++ feed ∧ '\n' ∉ content ∧
      (feed = [] ∨ feed = ['\n']) := by
    rw [fullLine, Document.lineChars?_eq indexed]
    cases splitAtLine isFeed line d.text.toList with
    | none => exact ⟨[], [], rfl, List.not_mem_nil, .inl rfl⟩
    | some s => exact exists_firstLine s.2
  have content_eq : trimEndWhile (· == '\n') (content ++ feed) = content := by
    have self : trimEndWhile (· == '\n') content = content := trimEndWhile_eq_self fun c isLast => by
      rw [beq_eq_false_iff_ne]
      rintro rfl
      exact flat (List.mem_of_getLast? isLast)
    rcases ends with rfl | rfl
    · rwa [List.append_nil]
    · rwa [trimEndWhile, List.reverse_append, List.reverse_singleton, List.singleton_append,
        List.dropWhile_cons_of_pos rfl, ← trimEndWhile]
  rw [whole, content_eq] at parts
  obtain ⟨returns, split, areReturns⟩ := exists_trimEndWhile (· == '\r') content
  rw [← parts] at split
  refine ⟨returns, feed, ?_, ?_, ?_, ends⟩
  · rw [whole, ← split]
  · rwa [← split]
  · intro c member
    rw [eq_of_beq (areReturns c member)]
    decide

theorem isStripped_lineChars (line : Nat) : IsStripped (lineChars d line) (fullLine d line) := by
  obtain ⟨returns, feed, whole, -, blank, ends⟩ := exists_fullLine indexed line
  have blanks : AreBlank (returns ++ feed) :=
    List.forall_mem_append.2 ⟨blank, by rcases ends with rfl | rfl <;> simp [isBlank]⟩
  have here := (isStripped_refl (lineChars d line)).append (isStripped_of_areBlank blanks)
  rwa [List.append_nil, ← List.append_assoc, ← whole] at here

/-- A line that others follow ends with a line feed. -/
theorem feed_mem_fullLine {line later : Nat} (less : line < later) (follows : (d.lineChars? later).isSome) :
    '\n' ∈ fullLine d line := by
  rw [Document.lineChars?_eq indexed, Option.isSome_map, Option.isSome_iff_exists] at follows
  obtain ⟨⟨upTo, behind⟩, found⟩ := follows
  obtain ⟨next, after, isNext, -⟩ := splitAtLine_of_le (Nat.succ_le_of_lt less) found
  rw [splitAtLine_succ] at isNext
  obtain ⟨⟨before, rest⟩, here, there⟩ := Option.bind_eq_some_iff.1 isNext
  obtain ⟨⟨mid, more⟩, isLine, -⟩ := Option.map_eq_some_iff.1 there
  obtain ⟨content, c, feed, rfl⟩ := exists_isFeed_of_splitAtLine isLine
  obtain rfl : c = '\n' := eq_of_beq feed
  rw [fullLine, Document.lineChars?_eq indexed, here, Option.map_some, Option.getD_some, firstLine, isLine]
  exact List.mem_append_right _ List.mem_cons_self

theorem isStripped_lineChars_feed {line later : Nat} (less : line < later) (follows : (d.lineChars? later).isSome) :
    IsStripped (lineChars d line ++ ['\n']) (fullLine d line) := by
  have member := feed_mem_fullLine indexed less follows
  obtain ⟨returns, feed, whole, flat, blank, ends⟩ := exists_fullLine indexed line
  rw [whole] at member ⊢
  have isFeed : feed = ['\n'] := by
    refine ends.resolve_left fun none => ?_
    rw [none, List.append_nil] at member
    exact flat member
  have here := (isStripped_refl (lineChars d line)).append (isStripped_of_areBlank blank)
  rw [List.append_nil] at here
  rw [isFeed]
  exact here.append (isStripped_refl ['\n'])

/-- The lines of the table are those of the text. -/
theorem isStripped_linesFrom {first count : Nat} (exist : (d.lineChars? (first + count)).isSome) :
    IsStripped (join (linesFrom d first (first + count + 1)))
      ((List.range' first (count + 1)).flatMap (fullLine d)) := by
  rw [linesFrom_succ d (Nat.le_add_right ..), join_concat, List.range'_concat, List.flatMap_append, Nat.one_mul,
    List.flatMap_singleton, linesFrom, Nat.add_sub_cancel_left, List.flatMap_map]
  refine (isStripped_flatMap _ fun line member => ?_).append (isStripped_lineChars indexed _)
  rw [List.mem_range'_1] at member
  exact isStripped_lineChars_feed indexed member.2 exist

end Lines

/-! ## Places -/

/-- Each character with the offset at which it stands, the first one at `n`. -/
def placed (n : Nat) : List Char → List (Char × Nat)
  | [] => []
  | c :: cs => (c, n) :: placed (n + c.utf8Size) cs

theorem map_placed (n : Nat) (cs : List Char) : (placed n cs).map (·.1) = cs := by
  induction cs generalizing n with
  | nil => rfl
  | cons c cs ih => rw [placed, List.map_cons, ih]

theorem placed_append (n : Nat) (cs ds : List Char) :
    placed n (cs ++ ds) = placed n cs ++ placed (n + length8 cs) ds := by
  induction cs generalizing n with
  | nil => rfl
  | cons c cs ih => rw [List.cons_append, placed, ih, placed, length8, Nat.add_assoc, List.cons_append]

theorem mem_placed {n : Nat} {cs : List Char} {x : Char × Nat} (member : x ∈ placed n cs) :
    ∃ before after, cs = before ++ x.1 :: after ∧ x.2 = n + length8 before := by
  induction cs generalizing n with
  | nil => exact absurd member List.not_mem_nil
  | cons c cs ih =>
    rcases List.mem_cons.1 member with rfl | later
    · exact ⟨[], cs, rfl, rfl⟩
    · obtain ⟨before, after, rfl, place⟩ := ih later
      exact ⟨c :: before, after, rfl, by rw [place, length8, Nat.add_assoc]⟩

theorem bounds_of_mem_placed {n : Nat} {cs : List Char} {x : Char × Nat} (member : x ∈ placed n cs) :
    n ≤ x.2 ∧ x.2 < n + length8 cs := by
  obtain ⟨before, after, rfl, place⟩ := mem_placed member
  have : 0 < length8 (x.1 :: after) := length8_pos
  rw [length8_append]
  omega

/-- The characters of a text between two offsets. -/
def placedBetween (text : String) (start stop : Nat) : List (Char × Nat) :=
  (placed 0 text.toList).filter fun x => start ≤ x.2 && x.2 < stop

theorem placedBetween_eq {text : String} {before mid after : List Char}
    (chars : text.toList = before ++ (mid ++ after)) :
    placedBetween text (length8 before) (length8 before + length8 mid) = placed (length8 before) mid := by
  have apart {n start stop : Nat} {cs : List Char} (outside : n + length8 cs ≤ start ∨ stop ≤ n) :
      (placed n cs).filter (fun x => start ≤ x.2 && x.2 < stop) = [] := by
    rw [List.filter_eq_nil_iff]
    intro x member
    have := bounds_of_mem_placed member
    simp only [Bool.and_eq_true, decide_eq_true_eq]
    omega
  have within : (placed (length8 before) mid).filter
      (fun x => length8 before ≤ x.2 && x.2 < length8 before + length8 mid) = placed (length8 before) mid := by
    rw [List.filter_eq_self]
    intro x member
    have := bounds_of_mem_placed member
    simp only [Bool.and_eq_true, decide_eq_true_eq]
    omega
  rw [placedBetween, chars, placed_append, placed_append, Nat.zero_add, List.filter_append, List.filter_append, within,
    apart (.inl (Nat.le_of_eq (Nat.zero_add _))), apart (.inr (Nat.le_refl _)), List.nil_append, List.append_nil]

/-! ## Line comments -/

/-- Whether a byte of a comment stands at an offset. -/
def IsCommentAt (text : String) (n : Nat) : Prop :=
  (Lexical.classes text)[n]?.any ByteClass.isComment = true

instance (text : String) (n : Nat) : Decidable (IsCommentAt text n) :=
  inferInstanceAs (Decidable (_ = _))

/-- The offset at which a line starts; that of the end if there is no such line. -/
def lineOffset (d : Document) (line : Nat) : Nat :=
  (d.lineStart? line).getD d.size

/-- A line with nothing but a line comment. -/
structure IsLineComment (d : Document) (line : Nat) : Prop where
  marked : ∃ rest, trim (lineChars d line) = '/' :: '/' :: rest
  code : Lexical.IsCodeBefore d.text (lineOffset d line)

/-- Blanks start neither a comment nor a literal. -/
theorem classesFrom_blanks {blanks : List Char} (blank : AreBlank blanks) (rest : List UInt8) :
    Lexical.classesFrom (.within .code) (encode8 blanks ++ rest) =
      List.replicate (length8 blanks) .code ++ Lexical.classesFrom (.within .code) rest := by
  have other {c : Char} (visible : isBlank c = false) : c ∉ blanks := by
    intro member
    rw [blank c member] at visible
    cases visible
  have slash := ne_of_mem_encode8 (n := 47) (by decide) (other (by decide))
  have quote := ne_of_mem_encode8 (n := 34) (by decide) (other (by decide))
  have apostrophe := ne_of_mem_encode8 (n := 39) (by decide) (other (by decide))
  rw [← length_encode8]
  refine Lexical.classesFrom_append_of_ordinary (fun b member next => ?_) rest
  simp only [Lexical.step, slash b member, quote b member, apostrophe b member, false_and, if_false]

/-- A line comment goes on up to the line feed. -/
theorem classesFrom_line {cs : List Char} (flat : '\n' ∉ cs) (rest : List UInt8) :
    Lexical.classesFrom (.within .line) (encode8 cs ++ rest) =
      List.replicate (length8 cs) .line ++ Lexical.classesFrom (.within .line) rest := by
  rw [← length_encode8]
  refine Lexical.classesFrom_append_of_ordinary (fun b member next => ?_) rest
  rw [Lexical.step, if_neg (ne_of_mem_encode8 (n := 10) (by decide) flat b member)]

theorem isCommentAt_of_slashes {text : String} {front blanks more back : List Char}
    (chars : text.toList = front ++ (blanks ++ ('/' :: '/' :: more) ++ back)) (blank : AreBlank blanks)
    (flat : '\n' ∉ more) (code : Lexical.IsCodeBefore text (length8 front)) {n : Nat}
    (low : length8 front + length8 blanks ≤ n)
    (high : n < length8 front + length8 blanks + length8 ('/' :: '/' :: more)) : IsCommentAt text n := by
  have bytes : (bytes text).drop (length8 front) =
      encode8 blanks ++ (47 :: 47 :: (encode8 more ++ encode8 back)) := by
    rw [bytes_eq_encode8, chars, encode8_append, ← length_encode8, List.drop_left, encode8_append, encode8_append,
      List.append_assoc]
    rfl
  have line : Lexical.classesFrom (.within .code) (47 :: 47 :: (encode8 more ++ encode8 back)) =
      List.replicate (length8 ('/' :: '/' :: more)) .line ++ Lexical.classesFrom (.within .line) (encode8 back) := by
    have start : Lexical.classesFrom (.within .code) (47 :: 47 :: (encode8 more ++ encode8 back)) =
      .line :: .line :: Lexical.classesFrom (.within .line) (encode8 more ++ encode8 back) := rfl
    rw [start, classesFrom_line flat, length8, length8]
    have two : '/'.utf8Size + ('/'.utf8Size + length8 more) = length8 more + 1 + 1 := by
      rw [show '/'.utf8Size = 1 by decide]
      omega
    rw [two, List.replicate_succ, List.replicate_succ]
    rfl
  have dropped : (Lexical.classes text).drop (length8 front) = List.replicate (length8 blanks) .code ++
      (List.replicate (length8 ('/' :: '/' :: more)) .line ++ Lexical.classesFrom (.within .line) (encode8 back)) := by
    rw [Lexical.classes, Lexical.drop_classesFrom, show Lexical.classes.bytes text = Text.bytes text from rfl, code,
      bytes, classesFrom_blanks blank, line]
  obtain ⟨i, rfl⟩ := Nat.exists_eq_add_of_le low
  have here : (Lexical.classes text)[length8 front + length8 blanks + i]? = some .line := by
    rw [Nat.add_assoc, ← List.getElem?_drop, dropped, List.getElem?_append_right (by simp),
      List.length_replicate, Nat.add_sub_cancel_left, List.getElem?_append_left (by simp; omega)]
    rw [List.getElem?_replicate, if_pos (by omega)]
  rw [IsCommentAt, here]
  rfl

/-! ## What is shown -/

/-- The characters of the lines that the comment above a line is put together from. -/
def usedAbove (d : Document) (line : Nat) : List (Char × Nat) :=
  placedBetween d.text (lineOffset d (topLine d line)) (lineOffset d line)

section Used

variable {d : Document} (indexed : d.IsIndexed)

include indexed

theorem lineOffset_eq (line : Nat) : lineOffset d line = length8 (textBefore d line) := by
  rw [lineOffset, Document.lineStart?_eq indexed, textBefore]
  cases splitAtLine isFeed line d.text.toList with
  | none => exact utf8ByteSize_eq_length8 d.text
  | some s => rfl

/-- The lines stand in the text one behind the other. -/
theorem placedBetween_lines (first count : Nat) :
    placedBetween d.text (lineOffset d first) (lineOffset d (first + count)) =
      placed (lineOffset d first) ((List.range' first count).flatMap (fullLine d)) := by
  have upTo := textBefore_add indexed first count
  obtain ⟨after, whole⟩ := textBefore_isPrefix d (first + count)
  rw [upTo, List.append_assoc] at whole
  rw [lineOffset_eq indexed, lineOffset_eq indexed, upTo, length8_append]
  exact placedBetween_eq whole.symm

/-- A character of several lines is one of a line. -/
theorem exists_line_of_mem_placed {first count : Nat} {x : Char × Nat}
    (member : x ∈ placed (lineOffset d first) ((List.range' first count).flatMap (fullLine d))) :
    ∃ line, first ≤ line ∧ line < first + count ∧ x ∈ placed (lineOffset d line) (fullLine d line) := by
  induction count with
  | zero => exact absurd member List.not_mem_nil
  | succ count ih =>
    rw [List.range'_concat, Nat.one_mul, List.flatMap_append, List.flatMap_singleton, placed_append] at member
    rcases List.mem_append.1 member with before | last
    · obtain ⟨line, low, high, here⟩ := ih before
      exact ⟨line, low, by omega, here⟩
    · refine ⟨first + count, Nat.le_add_right .., by omega, ?_⟩
      rwa [lineOffset_eq indexed (first + count), textBefore_add indexed, length8_append, ← lineOffset_eq indexed]

/-- All that stands on a line with nothing but a line comment is comment. -/
theorem IsLineComment.isCommentAt {line : Nat} (h : IsLineComment d line) {x : Char × Nat}
    (member : x ∈ placed (lineOffset d line) (fullLine d line)) (visible : isBlank x.1 = false) :
    IsCommentAt d.text x.2 := by
  obtain ⟨rest, marked⟩ := h.marked
  obtain ⟨returns, feed, whole, flat, blankReturns, ends⟩ := exists_fullLine indexed line
  obtain ⟨blanks, blanks', split, blank, blank', -⟩ := exists_trim (lineChars d line)
  rw [marked] at split
  have full : fullLine d line = blanks ++ ('/' :: '/' :: (rest ++ blanks' ++ returns)) ++ feed := by
    rw [whole, split]
    simp only [List.append_assoc, List.cons_append]
  have flat' : '\n' ∉ rest ++ blanks' ++ returns := by
    intro feeds
    apply flat
    rw [split]
    simp only [List.mem_append, List.mem_cons] at feeds ⊢
    tauto
  obtain ⟨after, chars⟩ := textBefore_isPrefix d (line + 1)
  rw [textBefore_succ indexed, full] at chars
  have chars' : d.text.toList =
      textBefore d line ++ (blanks ++ ('/' :: '/' :: (rest ++ blanks' ++ returns)) ++ (feed ++ after)) := by
    rw [← chars]
    simp only [List.append_assoc]
  have code := h.code
  rw [lineOffset_eq indexed] at code member
  rw [full, placed_append, placed_append] at member
  rcases List.mem_append.1 member with inLine | inFeed
  · rcases List.mem_append.1 inLine with inBlanks | inComment
    · obtain ⟨before, behind, isBlanks, -⟩ := mem_placed inBlanks
      have blankThere := blank x.1 (isBlanks ▸ List.mem_append_right _ List.mem_cons_self)
      rw [blankThere] at visible
      cases visible
    · have bounds := bounds_of_mem_placed inComment
      exact isCommentAt_of_slashes chars' blank flat' code bounds.1 bounds.2
  · obtain ⟨before, behind, isFeed, -⟩ := mem_placed inFeed
    have isThere : x.1 ∈ feed := isFeed ▸ List.mem_append_right _ List.mem_cons_self
    rcases ends with rfl | rfl
    · exact absurd isThere List.not_mem_nil
    · rw [List.mem_singleton.1 isThere] at visible
      cases visible

omit indexed in
theorem commentsAbove_of_above? {line : Nat} {text : String} (isShown : above? d line = some text) :
    commentsAbove d line ≠ [] ∧ join (commentsAbove d line).reverse = text.toList := by
  unfold above? at isShown
  split at isShown
  · cases isShown
  · rename_i some
    refine ⟨some, ?_⟩
    rw [← Option.some.inj isShown, String.toList_ofList]
    rfl

omit indexed in
theorem exists_line_above {line : Nat} (isLower : topLine d line < line) :
    ∃ above, line = above + 1 ∧ (d.lineChars? above).isSome := by
  cases line with
  | zero => exact absurd isLower (Nat.not_lt_zero _)
  | succ above =>
    refine ⟨above, rfl, ?_⟩
    by_contra missing
    rw [Option.not_isSome_iff_eq_none] at missing
    have empty : lineChars d above = [] := by
      rw [lineChars, Document.lineText?, missing]
      rfl
    rw [topLine, empty] at isLower
    exact absurd isLower (Nat.lt_irrefl _)

theorem usedAbove_eq {line : Nat} (le : topLine d line ≤ line) :
    usedAbove d line = placed (lineOffset d (topLine d line))
      ((List.range' (topLine d line) (line - topLine d line)).flatMap (fullLine d)) := by
  rw [usedAbove, ← placedBetween_lines indexed, Nat.add_sub_of_le le]

/-- What is shown is what is left of the lines that are used. -/
theorem isStripped_usedAbove {line : Nat} {text : String} (isShown : above? d line = some text) :
    IsStripped text.toList ((usedAbove d line).map (·.1)) := by
  obtain ⟨le, none, stripped⟩ := isStripped_commentsAbove d line
  obtain ⟨some, shown⟩ := commentsAbove_of_above? isShown
  have isLower := Nat.lt_of_le_of_ne le fun same => some (none same)
  obtain ⟨above, rfl, exist⟩ := exists_line_above isLower
  obtain ⟨count, isLast⟩ := Nat.exists_eq_add_of_le (Nat.le_of_lt_succ isLower)
  have size : above + 1 - topLine d (above + 1) = count + 1 := by omega
  rw [isLast] at exist
  have lines := isStripped_linesFrom indexed exist
  rw [← isLast] at lines
  rw [shown] at stripped
  rw [usedAbove_eq indexed le, map_placed, size]
  exact stripped.trans lines

omit indexed in
/-- What is used stands in the text in front of the line. -/
theorem stands_of_mem_usedAbove {line : Nat} {x : Char × Nat} (member : x ∈ usedAbove d line) :
    x.2 < lineOffset d line ∧ ∃ before after, d.text.toList = before ++ x.1 :: after ∧ x.2 = length8 before := by
  rw [usedAbove, placedBetween, List.mem_filter, Bool.and_eq_true, decide_eq_true_eq, decide_eq_true_eq] at member
  obtain ⟨before, after, whole, place⟩ := mem_placed member.1
  exact ⟨member.2.2, before, after, whole, by rw [place, Nat.zero_add]⟩

end Used

/-- What is left of characters stands where some of them stand. -/
theorem IsStripped.exists_sublist {cs : List Char} {xs : List (Char × Nat)} (h : IsStripped cs (xs.map (·.1))) :
    ∃ shown : List (Char × Nat), shown.map (·.1) = cs ∧ shown.Sublist xs ∧
      shown.filter (isProse ·.1) = xs.filter (isProse ·.1) := by
  obtain ⟨shown, isPart, chars⟩ := List.sublist_map_iff.1 h.sublist
  refine ⟨shown, chars.symm, isPart, (isPart.filter _).eq_of_length ?_⟩
  have lengths := congrArg List.length h.prose
  rwa [chars, List.filter_map, List.filter_map, List.length_map, List.length_map] at lengths

/-- Documentation shows all that stands on the lines that it is taken from, except for some blanks, stars and slashes,
and nothing else. So nothing but comments is shown, apart from these characters, if and only if nothing but comments
stands on the lines, as on lines with nothing but a line comment. -/
theorem above?_shows_lines {d : Document} (indexed : d.IsIndexed) {line : Nat} {text : String}
    (isShown : above? d line = some text) :
    ∃ shown : List (Char × Nat), shown.map (·.1) = text.toList ∧ shown.Sublist (usedAbove d line) ∧
      (∀ x ∈ usedAbove d line, x.2 < lineOffset d line ∧
        ∃ before after, d.text.toList = before ++ x.1 :: after ∧ x.2 = length8 before) ∧
      shown.filter (isProse ·.1) = (usedAbove d line).filter (isProse ·.1) ∧
      ((∀ x ∈ shown, isProse x.1 = true → IsCommentAt d.text x.2) ↔
        ∀ x ∈ usedAbove d line, isProse x.1 = true → IsCommentAt d.text x.2) ∧
      ((∀ i, topLine d line ≤ i → i < line → IsLineComment d i) →
        ∀ x ∈ shown, isBlank x.1 = false → IsCommentAt d.text x.2) := by
  obtain ⟨shown, chars, isPart, prose⟩ := (isStripped_usedAbove indexed isShown).exists_sublist
  refine ⟨shown, chars, isPart, fun x member => stands_of_mem_usedAbove member, prose, ?_, ?_⟩
  · have mem_iff (x : Char × Nat) : x ∈ shown ∧ isProse x.1 = true ↔ x ∈ usedAbove d line ∧ isProse x.1 = true := by
      have same : x ∈ shown.filter (isProse ·.1) ↔ x ∈ (usedAbove d line).filter (isProse ·.1) := by rw [prose]
      rwa [List.mem_filter, List.mem_filter] at same
    constructor
    · exact fun all x member isText => all x ((mem_iff x).2 ⟨member, isText⟩).1 isText
    · exact fun all x member isText => all x ((mem_iff x).1 ⟨member, isText⟩).1 isText
  · intro all x member visible
    have le := (isStripped_commentsAbove d line).1
    have isUsed := isPart.subset member
    rw [usedAbove_eq indexed le] at isUsed
    obtain ⟨i, low, high, here⟩ := exists_line_of_mem_placed indexed isUsed
    exact (all i low (by omega)).isCommentAt indexed here visible

/-- A declaration below another one that has a comment behind it. -/
def besideCode : Document :=
  .new ⟨"file", some .empty, "/a.hlsl", none, none⟩ "int x; /* c */\nint y;\n" 0

/-- Code is shown as documentation: an `x` that stands in no comment. -/
theorem above?_besideCode : above? besideCode 1 = some "int x;  c" ∧
    ∀ x ∈ placed 0 besideCode.text.toList, x.1 = 'x' → ¬IsCommentAt besideCode.text x.2 := by
  decide +kernel

/-- What is shown stands on the line, so that code stands there. -/
theorem above?_shows_besideCode : besideCode.IsIndexed ∧ above? besideCode 1 = some "int x;  c" ∧
    ∃ x ∈ usedAbove besideCode 1, isProse x.1 = true ∧ ¬IsCommentAt besideCode.text x.2 := by
  have indexed : besideCode.IsIndexed := Document.isIndexed_new ..
  have isShown : above? besideCode 1 = some "int x;  c" := by decide +kernel
  obtain ⟨shown, chars, isPart, -⟩ := above?_shows_lines indexed isShown
  refine ⟨indexed, isShown, ?_⟩
  have letter : 'x' ∈ shown.map (·.1) := by
    rw [chars]
    decide
  obtain ⟨x, member, isLetter⟩ := List.mem_map.1 letter
  have code : ∀ x ∈ usedAbove besideCode 1, x.1 = 'x' → ¬IsCommentAt besideCode.text x.2 := by decide +kernel
  have isUsed := isPart.subset member
  exact ⟨x, isUsed, by rw [isLetter]; decide, code x isUsed isLetter⟩

end DocComment

end ShaderAnalysis
