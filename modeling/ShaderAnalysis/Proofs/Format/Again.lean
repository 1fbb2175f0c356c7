import Mathlib.Data.List.Induction
import ShaderAnalysis.Proofs.Format.Reread

/-!
# Formatting twice

What formatting does to a formatted text: it breaks and spaces each output line on its own
(`formatChars_formatChars`), so it changes nothing exactly if it changes none of them
(`formatCode_formatCode_iff`). Comments, block comments, indentation and empty lines stay as they are, whatever
the number of spaces of a level. There is a text of which a line changes (`formatCode_formatCode_scope`).
-/

namespace ShaderAnalysis

namespace Format

open Text

/-! ## Joined lines -/

theorem splitLines_append {line : List Char} (flat : '\n' ∉ line) (rest : List Char) :
    splitLines (line ++ '\n' :: rest) = line :: splitLines rest := by
  induction line with
  | nil => simp [splitLines, splitWhere]
  | cons c cs ih =>
    rw [List.mem_cons, not_or] at flat
    have further := ih flat.2
    rw [splitLines] at further ⊢
    rw [List.cons_append, splitWhere, if_neg (by simpa using Ne.symm flat.1), further]

theorem splitLines_flatMap {lines : List (List Char)} (flat : ∀ line ∈ lines, '\n' ∉ line) :
    splitLines (lines.flatMap (· ++ ['\n'])) = lines ++ [[]] := by
  induction lines with
  | nil => rfl
  | cons line lines ih =>
    obtain ⟨here, there⟩ := List.forall_mem_cons.1 flat
    rw [List.flatMap_cons, List.append_assoc, List.singleton_append, splitLines_append here, ih there,
      List.cons_append]

/-- The pieces of a text have its characters without the separators. -/
theorem mem_of_mem_splitWhere {p : Char → Bool} {cs piece : List Char} (h : piece ∈ splitWhere p cs) :
    ∀ c ∈ piece, c ∈ cs ∧ p c = false := by
  induction cs generalizing piece with
  | nil =>
    rw [List.mem_singleton.1 h]
    exact fun c mem => absurd mem List.not_mem_nil
  | cons d ds ih =>
    have tail {piece : List Char} (h : piece ∈ splitWhere p ds) : ∀ c ∈ piece, c ∈ d :: ds ∧ p c = false :=
      fun c mem => ⟨List.mem_cons_of_mem d (ih h c mem).1, (ih h c mem).2⟩
    rw [splitWhere] at h
    split at h
    · rcases List.mem_cons.1 h with rfl | h
      · exact fun c mem => absurd mem List.not_mem_nil
      · exact tail h
    · rename_i other
      have here : d ∈ d :: ds ∧ p d = false := ⟨List.mem_cons_self, by simpa using other⟩
      split at h
      · rw [List.mem_singleton.1 h]
        exact List.forall_mem_singleton.2 here
      · rename_i first rest equal
        rw [equal] at tail
        rcases List.mem_cons.1 h with rfl | h
        · exact List.forall_mem_cons.2 ⟨here, tail List.mem_cons_self⟩
        · exact tail (List.mem_cons_of_mem _ h)

/-- Empty lines at the end are not seen. -/
theorem joinLines_append_replicate (lines : List (List Char)) (k : Nat) :
    joinLines (lines ++ List.replicate k []) = joinLines lines := by
  have feeds : (List.replicate k ([] : List Char)).flatMap (· ++ ['\n']) = List.replicate k '\n' := by
    induction k with
    | zero => rfl
    | succ k ih => simp [List.replicate_succ, ih]
  rw [joinLines, joinLines, List.flatMap_append, feeds, trimEndWhile, trimEndWhile, List.reverse_append,
    List.reverse_replicate, List.dropWhile_append_of_pos]
  intro c mem
  rw [List.eq_of_mem_replicate mem]
  rfl

/-- Lines of which the last one is not empty are joined by a line feed behind each. -/
theorem joinLines_concat (lines : List (List Char)) {last : List Char} (flat : '\n' ∉ last) (nonempty : last ≠ []) :
    joinLines (lines ++ [last]) = (lines ++ [last]).flatMap (· ++ ['\n']) := by
  obtain ⟨init, c, rfl⟩ := List.eq_nil_or_concat last |>.resolve_left nonempty
  have other : c ≠ '\n' := by
    rintro rfl
    exact flat (by simp)
  simp [joinLines, trimEndWhile, other]

theorem exists_append_replicate (lines : List (List Char)) : ∃ kept k, lines = kept ++ List.replicate k [] ∧
    (kept = [] ∨ ∃ init last, kept = init ++ [last] ∧ last ≠ []) := by
  induction lines using List.reverseRecOn with
  | nil => exact ⟨[], 0, rfl, .inl rfl⟩
  | append_singleton lines last ih =>
    by_cases empty : last = []
    · obtain ⟨kept, k, rfl, ends⟩ := ih
      exact ⟨kept, k + 1, by rw [List.replicate_succ', empty, List.append_assoc], ends⟩
    · exact ⟨lines ++ [last], 0, by simp, .inr ⟨lines, last, rfl, empty⟩⟩

/-- Splitting joined lines gives the lines again, up to empty ones at the end. -/
theorem exists_splitLines_joinLines {lines : List (List Char)} (flat : ∀ line ∈ lines, '\n' ∉ line) :
    ∃ kept j k, lines = kept ++ List.replicate j [] ∧
      splitLines (joinLines lines) = kept ++ List.replicate k [] := by
  obtain ⟨kept, j, rfl, rfl | ⟨init, last, rfl, nonempty⟩⟩ := exists_append_replicate lines
  · exact ⟨[], j, 2, rfl, by rw [joinLines_append_replicate]; rfl⟩
  · refine ⟨init ++ [last], j, 1, rfl, ?_⟩
    have flat' : ∀ line ∈ init ++ [last], '\n' ∉ line := fun line mem => flat line (List.mem_append_left _ mem)
    rw [joinLines_append_replicate, joinLines_concat init (flat' last (by simp)) nonempty, splitLines_flatMap flat']
    rfl

theorem mem_of_mem_joinLines {lines : List (List Char)} {c : Char} (mem : c ∈ joinLines lines) :
    c = '\n' ∨ ∃ line ∈ lines, c ∈ line := by
  rw [joinLines, List.mem_append, List.mem_singleton] at mem
  rcases mem with mem | feed
  · have inFeeds : c ∈ lines.flatMap (· ++ ['\n']) :=
      List.mem_reverse.1 (List.dropWhile_subset _ (List.mem_reverse.1 mem))
    obtain ⟨line, inLines, mem⟩ := List.mem_flatMap.1 inFeeds
    rcases List.mem_append.1 mem with mem | feed
    · exact .inr ⟨line, inLines, mem⟩
    · exact .inl (List.mem_singleton.1 feed)
  · exact .inl feed

/-! ## Lines of a formatted text -/

/-- The output lines of a text with their tokens spaced. -/
def formattedLines (text : List Char) : List Line :=
  (splitText (text.filter (· != '\r'))).map Line.respaced

/-- The output lines that formatting makes of an output line. -/
def Line.reformatted (line : Line) : List Line :=
  line.reread.map Line.respaced

theorem formatChars_eq (text : List Char) (tabSize : Nat) :
    formatChars text tabSize = joinLines (indentLines (clampTabSize tabSize) (formattedLines text)) := rfl

theorem clampTabSize_pos (n : Nat) : 0 < clampTabSize n :=
  Nat.lt_of_lt_of_le (by decide) (Nat.le_max_left minTabSize _)

theorem areRead_splitText (text : List Char) : AreRead false (splitText (text.filter (· != '\r'))) := by
  refine areRead_linesFrom false fun raw mem c inRaw => ?_
  obtain ⟨drawn, feed⟩ := mem_of_mem_splitWhere mem c inRaw
  exact ⟨by simpa using feed, by simpa using (List.mem_filter.1 drawn).2⟩

theorem areRead_formattedLines (text : List Char) : AreRead false (formattedLines text) :=
  (areRead_splitText text).map_respaced

theorem isFlat_layOut (tabSize indent : Nat) {inBlock : Bool} {line : Line} (h : line.IsRead inBlock) :
    IsFlat (layOut tabSize indent line) := by
  have blanks (n : Nat) : IsFlat (spaces n) := by
    intro c mem
    rw [List.eq_of_mem_replicate mem]
    decide
  have kept : trimEnd line.comment = line.comment := by simpa using trimEnd_append areBlank_nil h.comment.last
  unfold layOut
  split
  · exact isFlat_nil
  · refine (((blanks indent).append h.flat).append ?_).append (kept.symm ▸ h.flat')
    split
    · exact isFlat_nil
    · exact blanks _

theorem isFlat_of_mem_indentFrom (tabSize : Nat) (n : Nesting) {inBlock : Bool} {lines : List Line}
    (h : AreRead inBlock lines) : ∀ cs ∈ indentFrom tabSize n lines, IsFlat cs := by
  induction lines generalizing n inBlock with
  | nil => exact fun cs mem => absurd mem List.not_mem_nil
  | cons line lines ih => exact List.forall_mem_cons.2 ⟨isFlat_layOut _ _ h.1, ih _ h.2⟩

/-! ## Empty lines at the end -/

/-- The line of an empty text. -/
def Line.empty : Line :=
  ⟨[], []⟩

@[simp] theorem respaced_empty : Line.empty.respaced = .empty := by
  rw [Line.empty, Line.respaced, respaceContent_nil]

theorem linesFrom_append_replicate (inBlock : Bool) (raws : List (List Char)) (k : Nat) :
    linesFrom inBlock (raws ++ List.replicate k []) = linesFrom inBlock raws ++ List.replicate k .empty := by
  induction raws generalizing inBlock with
  | nil =>
    induction k generalizing inBlock with
    | zero => rfl
    | succ k ih =>
      have blank : (linesFrom inBlock ([] :: List.replicate k [])) = .empty :: linesFrom inBlock (List.replicate k []) := by
        cases inBlock with
        | true => rfl
        | false => exact congrArg (· ++ linesFrom false (List.replicate k [])) (reread_of_comment [])
      exact blank.trans (congrArg (Line.empty :: ·) (ih inBlock))
  | cons raw raws ih =>
    rw [List.cons_append, linesFrom, linesFrom]
    split
    · simp only [ih, List.cons_append]
    · simp only [ih, List.append_assoc]

theorem indentFrom_append_replicate (tabSize : Nat) (n : Nesting) (lines : List Line) (k : Nat) :
    indentFrom tabSize n (lines ++ List.replicate k .empty) = indentFrom tabSize n lines ++ List.replicate k [] := by
  induction lines generalizing n with
  | nil =>
    induction k generalizing n with
    | zero => rfl
    | succ k ih => exact congrArg (([] : List Char) :: ·) (ih (n.after []))
  | cons line lines ih => rw [List.cons_append, indentFrom, indentFrom, ih, List.cons_append]

/-- The second pass breaks and spaces the lines of the first one, each on its own. -/
theorem formatChars_formatChars (text : List Char) (tabSize : Nat) :
    formatChars (formatChars text tabSize) tabSize =
      joinLines (indentLines (clampTabSize tabSize) ((formattedLines text).flatMap Line.reformatted)) := by
  have areRead := areRead_formattedLines text
  have flat := isFlat_of_mem_indentFrom (clampTabSize tabSize) ⟨0, []⟩ areRead
  have noReturn : (formatChars text tabSize).filter (· != '\r') = formatChars text tabSize := by
    refine List.filter_eq_self.2 fun c mem => ?_
    rcases mem_of_mem_joinLines mem with rfl | ⟨line, inLines, mem⟩
    · rfl
    · simpa using (flat line inLines c mem).2
  obtain ⟨kept, j, k, laidOut, split⟩ := exists_splitLines_joinLines fun cs mem feed => (flat cs mem _ feed).1 rfl
  have again : linesFrom false kept ++ List.replicate j .empty = (formattedLines text).flatMap Line.reread := by
    rw [← linesFrom_append_replicate, ← laidOut, linesFrom_indentFrom (clampTabSize_pos tabSize) _ areRead]
  have formatted : formattedLines (formatChars text tabSize) =
      (linesFrom false kept).map Line.respaced ++ List.replicate k .empty := by
    rw [formattedLines, noReturn, splitText, formatChars_eq, indentLines, split, linesFrom_append_replicate,
      List.map_append, List.map_replicate, respaced_empty]
  have reformatted : (formattedLines text).flatMap Line.reformatted =
      (linesFrom false kept).map Line.respaced ++ List.replicate j .empty := by
    rw [← respaced_empty, ← List.map_replicate, ← List.map_append, again, List.map_flatMap]
    rfl
  rw [formatChars_eq, formatted, reformatted, indentLines, indentLines, indentFrom_append_replicate,
    indentFrom_append_replicate, joinLines_append_replicate, joinLines_append_replicate]

/-- Lines that stay as they are make a text that stays as it is. -/
theorem formatChars_formatChars_of_stays {text : List Char}
    (stays : ∀ line ∈ formattedLines text, line.reformatted = [line]) (tabSize : Nat) :
    formatChars (formatChars text tabSize) tabSize = formatChars text tabSize := by
  rw [formatChars_formatChars, formatChars_eq, List.flatMap_congr stays, List.flatMap_singleton']

/-! ## Lines that stay -/

/-- Whether there is more than blanks. -/
def hasInk (cs : List Char) : Bool :=
  !(ink cs).isEmpty

/-- Whether the line is more than blanks. -/
def Line.isInked (line : Line) : Bool :=
  !line.ink.isEmpty

theorem hasInk_layOut (tabSize indent : Nat) (line : Line) : hasInk (layOut tabSize indent line) = line.isInked := by
  rw [hasInk, ink_layOut, Line.isInked]

theorem eq_nil_of_ink {cs : List Char} (trimmed : IsTrimmed cs) (empty : ink cs = []) : cs = [] := by
  cases cs with
  | nil => rfl
  | cons c cs => simp [ink, trimmed.first c rfl] at empty

theorem Line.IsRead.eq_empty {inBlock : Bool} {line : Line} (h : line.IsRead inBlock) (blank : ¬line.isInked = true) :
    line = .empty := by
  have none : Text.ink line.content ++ Text.ink line.comment = [] := by simpa [Line.isInked, Line.ink] using blank
  obtain ⟨first, second⟩ := List.append_eq_nil_iff.1 none
  cases line
  exact congrArg₂ Line.mk (eq_nil_of_ink h.content first) (eq_nil_of_ink h.comment second)

theorem reformatted_of_comment (comment : List Char) : Line.reformatted ⟨[], comment⟩ = [⟨[], comment⟩] := by
  rw [Line.reformatted, reread_of_comment, List.map_singleton, Line.respaced, respaceContent_nil]

theorem ink_respaced (line : Line) : line.respaced.ink = line.ink := by
  rw [Line.ink, Line.respaced, ink_respaceContent, Line.ink]

theorem flatMap_ink_reformatted (line : Line) : line.reformatted.flatMap Line.ink = line.ink := by
  rw [Line.reformatted, List.flatMap_map, Line.ink, ← flatMap_ink_linesOf]
  simp only [ink_respaced]
  rfl

theorem ink_ne_nil_of_mem_piece {current p : List Char} (mem : p ∈ piece current) : ink p ≠ [] := by
  simp only [piece] at mem
  split at mem
  · cases mem
  · rename_i nonempty
    rw [List.mem_singleton.1 mem]
    exact fun none => nonempty (by rw [eq_nil_of_ink (isTrimmed_trim current) none]; rfl)

theorem ink_ne_nil_of_mem_piecesFrom {depth : Nat} {q : Quoting} {current code p : List Char}
    (mem : p ∈ piecesFrom depth q current code) : ink p ≠ [] := by
  fun_induction piecesFrom depth q current code with
  | case1 => exact ink_ne_nil_of_mem_piece mem
  | case2 depth q current c cs _ ih => exact ih mem
  | case3 depth q current cs rest _ _ ih =>
    rcases List.mem_append.1 mem with mem | mem
    · exact ink_ne_nil_of_mem_piece mem
    · exact ih mem
  | case4 depth q current cs _ _ ih =>
    rcases List.mem_append.1 mem with mem | mem
    · rcases List.mem_append.1 mem with mem | mem
      · exact ink_ne_nil_of_mem_piece mem
      · rw [List.mem_singleton.1 mem]
        decide
    · exact ih mem
  | case5 depth q current cs _ _ ih =>
    rcases List.mem_append.1 mem with mem | mem
    · rcases List.mem_append.1 mem with mem | mem <;> exact ink_ne_nil_of_mem_piece mem
    · exact ih mem
  | case6 depth q current c cs _ _ _ _ ih =>
    rcases List.mem_append.1 mem with mem | mem
    · exact ink_ne_nil_of_mem_piece mem
    · exact ih mem
  | case7 depth q current c cs _ _ _ _ _ ih => exact ih mem

theorem ink_ne_nil_of_mem_withComment {comment : List Char} {parts : List (List Char)}
    (inked : ∀ part ∈ parts, ink part ≠ []) (some : parts = [] → ink comment ≠ []) :
    ∀ line ∈ withComment comment parts, line.ink ≠ [] := by
  fun_induction withComment comment parts with
  | case1 => simpa [Line.ink] using some rfl
  | case2 last => simp [Line.ink, inked]
  | case3 first others more ih =>
    obtain ⟨here, there⟩ := List.forall_mem_cons.1 inked
    refine List.forall_mem_cons.2 ⟨by simp [Line.ink, here], ih there fun none => absurd none more⟩

/-- A line is not broken into blanks. -/
theorem isInked_of_mem_reformatted {line line' : Line} (inked : line.isInked = true)
    (mem : line' ∈ line.reformatted) : line'.isInked = true := by
  obtain ⟨part, inParts, rfl⟩ := List.mem_map.1 mem
  have whole : line.ink ≠ [] := by simpa [Line.isInked] using inked
  suffices h : part.ink ≠ [] by simpa [Line.isInked, ink_respaced] using h
  unfold Line.reread linesOf at inParts
  split at inParts
  · rw [List.mem_singleton.1 inParts, Line.ink, ink_collapse]
    exact whole
  · refine ink_ne_nil_of_mem_withComment (fun p mem => ink_ne_nil_of_mem_piecesFrom mem) (fun none => ?_) part inParts
    have content : Text.ink line.content = [] := by
      have := flatMap_ink_piecesFrom 0 .outside [] line.content
      rw [none] at this
      exact this.symm
    intro empty
    rw [Line.ink, content, empty] at whole
    exact whole rfl

theorem indentFrom_append (tabSize : Nat) (n : Nesting) (lines lines' : List Line) :
    indentFrom tabSize n (lines ++ lines') = indentFrom tabSize n lines ++
      indentFrom tabSize (lines.foldl (fun n line => n.after line.content) n) lines' := by
  induction lines generalizing n with
  | nil => rfl
  | cons line lines ih => rw [List.cons_append, indentFrom, ih, indentFrom, List.cons_append, List.foldl_cons]

theorem length_filter_indentFrom (tabSize : Nat) (n : Nesting) (lines : List Line) :
    ((indentFrom tabSize n lines).filter hasInk).length = lines.countP Line.isInked := by
  induction lines generalizing n with
  | nil => rfl
  | cons line lines ih =>
    rw [indentFrom, ← List.countP_eq_length_filter, List.countP_cons, List.countP_cons, hasInk_layOut,
      List.countP_eq_length_filter, ih]

theorem countP_reformatted {line : Line} (inked : line.isInked = true) :
    line.reformatted.countP Line.isInked = line.reformatted.length :=
  List.countP_eq_length.2 fun _ mem => isInked_of_mem_reformatted inked mem

theorem reformatted_ne_nil {line : Line} (inked : line.isInked = true) : line.reformatted ≠ [] := by
  intro none
  have := flatMap_ink_reformatted line
  rw [none, List.flatMap_nil] at this
  rw [Line.isInked, ← this] at inked
  cases inked

/-- Formatting again gives at least as many lines. -/
theorem countP_le_countP_flatMap (lines : List Line) :
    lines.countP Line.isInked ≤ (lines.flatMap Line.reformatted).countP Line.isInked := by
  induction lines with
  | nil => exact Nat.le_refl 0
  | cons line lines ih =>
    rw [List.flatMap_cons, List.countP_append, List.countP_cons]
    split
    · rename_i inked
      have := List.length_pos_iff.2 (reformatted_ne_nil inked)
      rw [countP_reformatted inked]
      omega
    · omega

/-- A line is known from its text. -/
theorem eq_of_layOut_eq {tabSize : Nat} (pos : 0 < tabSize) {indent indent' : Nat} {line line' : Line}
    (h : line.IsRead false) (h' : line'.IsRead false)
    (same : layOut tabSize indent line = layOut tabSize indent' line') : line = line' := by
  obtain ⟨content, comment⟩ := splitComment_layOut pos indent h
  obtain ⟨content', comment'⟩ := splitComment_layOut pos indent' h'
  cases line
  cases line'
  simp_all

theorem AreRead.flatMap_reread {inBlock : Bool} {lines : List Line} (h : AreRead inBlock lines) :
    AreRead inBlock (lines.flatMap Line.reread) := by
  induction lines generalizing inBlock with
  | nil => trivial
  | cons line lines ih =>
    obtain ⟨here, there⟩ := h
    cases inBlock with
    | true =>
      obtain ⟨content, comment⟩ := line
      obtain rfl : content = [] := here.starts
      rw [List.flatMap_cons, reread_of_comment]
      exact ⟨here, ih there⟩
    | false =>
      exact areRead_linesOf here.content here.clear here.flat here.starts here.comment here.flat' (ih there)

theorem map_respaced_reread (lines : List Line) :
    (lines.flatMap Line.reread).map Line.respaced = lines.flatMap Line.reformatted := by
  rw [List.map_flatMap]
  rfl

theorem AreRead.flatMap_reformatted {inBlock : Bool} {lines : List Line} (h : AreRead inBlock lines) :
    AreRead inBlock (lines.flatMap Line.reformatted) :=
  map_respaced_reread lines ▸ h.flatMap_reread.map_respaced

/-- If breaking and spacing all lines again leaves the same texts, it leaves each line. The lines that are more
than blanks are as many before and after, so each of them is broken into one. -/
theorem reformatted_eq_of_filter_eq {tabSize : Nat} (pos : 0 < tabSize) {inBlock : Bool} {lines : List Line}
    (h : AreRead inBlock lines) (n n' : Nesting)
    (same : (indentFrom tabSize n (lines.flatMap Line.reformatted)).filter hasInk =
      (indentFrom tabSize n' lines).filter hasInk) :
    ∀ line ∈ lines, line.reformatted = [line] := by
  induction lines generalizing inBlock n n' with
  | nil => exact fun line mem => absurd mem List.not_mem_nil
  | cons line lines ih =>
    obtain ⟨here, there⟩ := h
    rw [List.flatMap_cons, indentFrom_append, List.filter_append, indentFrom] at same
    by_cases inked : line.isInked = true
    · have count := congrArg List.length same
      rw [List.filter_cons_of_pos (by rwa [hasInk_layOut]), List.length_append, List.length_cons,
        length_filter_indentFrom, length_filter_indentFrom, length_filter_indentFrom,
        countP_reformatted inked] at count
      have more := countP_le_countP_flatMap lines
      have one := List.length_pos_iff.2 (reformatted_ne_nil inked)
      obtain ⟨line', single⟩ : ∃ line', line.reformatted = [line'] := List.length_eq_one_iff.1 (by omega)
      have inked' : line'.isInked = true := isInked_of_mem_reformatted inked (single ▸ List.mem_singleton_self line')
      rw [single, indentFrom, indentFrom, List.filter_cons_of_pos (by rwa [hasInk_layOut]),
        List.filter_cons_of_pos (by rwa [hasInk_layOut]), List.filter_nil, List.cons_append] at same
      obtain ⟨text, rest⟩ := List.cons.inj same
      refine List.forall_mem_cons.2 ⟨?_, ih there _ _ rest⟩
      cases inBlock with
      | true =>
        obtain ⟨content, comment⟩ := line
        obtain rfl : content = [] := here.starts
        exact reformatted_of_comment comment
      | false =>
        have alone : AreRead false [line] := ⟨here, trivial⟩
        have here' : line'.IsRead false := by
          have := alone.flatMap_reformatted
          rw [List.flatMap_singleton, single] at this
          exact this.1
        rw [single, eq_of_layOut_eq pos here' here text]
    · obtain rfl := here.eq_empty inked
      have blank (indent : Nat) : ¬hasInk (layOut tabSize indent .empty) = true := by
        rw [hasInk_layOut]
        exact inked
      have single : Line.empty.reformatted = [.empty] := reformatted_of_comment []
      rw [single, indentFrom, indentFrom, List.filter_cons_of_neg (blank _), List.filter_cons_of_neg (blank _)] at same
      exact List.forall_mem_cons.2 ⟨single, ih there _ _ same⟩

theorem filter_splitLines_joinLines {lines : List (List Char)} (flat : ∀ line ∈ lines, '\n' ∉ line) :
    (splitLines (joinLines lines)).filter hasInk = lines.filter hasInk := by
  obtain ⟨kept, j, k, rfl, split⟩ := exists_splitLines_joinLines flat
  have none (k : Nat) : (List.replicate k ([] : List Char)).filter hasInk = [] := by
    rw [List.filter_replicate_of_neg (by decide)]
  rw [split, List.filter_append, List.filter_append, none, none]

end Format

/-- Formatting a formatted text again changes nothing exactly if breaking and spacing any one of its lines again
changes nothing. -/
theorem formatCode_formatCode_iff (text : String) (tabSize : Nat) :
    formatCode (formatCode text tabSize) tabSize = formatCode text tabSize ↔
      ∀ line ∈ Format.formattedLines text.toList, line.reformatted = [line] := by
  open Format in
  have areRead := areRead_formattedLines text.toList
  have pos := clampTabSize_pos tabSize
  have feedless {lines : List Line} (h : AreRead false lines) :
      ∀ cs ∈ indentLines (clampTabSize tabSize) lines, '\n' ∉ cs :=
    fun cs mem feed => (isFlat_of_mem_indentFrom _ ⟨0, []⟩ h cs mem _ feed).1 rfl
  rw [formatCode, formatCode, String.toList_ofList, String.ofList_inj]
  constructor
  · intro same
    rw [formatChars_formatChars, formatChars_eq] at same
    refine reformatted_eq_of_filter_eq pos areRead ⟨0, []⟩ ⟨0, []⟩ ?_
    rw [← indentLines, ← indentLines, ← filter_splitLines_joinLines (feedless areRead.flatMap_reformatted), same,
      filter_splitLines_joinLines (feedless areRead)]
  · exact fun stays => formatChars_formatChars_of_stays stays tabSize

/-- The colon of a conditional expression and the scope operator behind it lose the space between them, and are
read as the scope operator and a colon the next time. -/
theorem formatCode_formatCode_scope :
    formatCode "int x = c ? 1 : ::ns::k;" 4 = "int x = c ? 1 :::ns::k;\n" ∧
      formatCode (formatCode "int x = c ? 1 : ::ns::k;" 4) 4 = "int x = c ? 1::: ns::k;\n" := by
  have first : formatCode "int x = c ? 1 : ::ns::k;" 4 = "int x = c ? 1 :::ns::k;\n" := by decide +kernel
  have second : formatCode "int x = c ? 1 :::ns::k;\n" 4 = "int x = c ? 1::: ns::k;\n" := by decide +kernel
  exact ⟨first, first ▸ second⟩

end ShaderAnalysis
