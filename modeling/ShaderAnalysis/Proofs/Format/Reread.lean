import ShaderAnalysis.Proofs.Format.Respaced

/-!
# Reading formatted lines

The output lines of a text can be read back from the way they are laid out: a comment is found where it was
put, a block comment goes on over the same lines, and the blanks around code and comments are trimmed again.
So the second reading breaks each output line on its own (`linesFrom_indentFrom`).
-/

namespace ShaderAnalysis.Format

open Text

/-! ## Lines that can be read back -/

/-- Characters of one line. -/
def IsFlat (cs : List Char) : Prop :=
  ∀ c ∈ cs, c ≠ '\n' ∧ c ≠ '\r'

theorem IsFlat.append {cs ds : List Char} (first : IsFlat cs) (second : IsFlat ds) : IsFlat (cs ++ ds) :=
  List.forall_mem_append.2 ⟨first, second⟩

/-- A comment as it stands behind code: there is none, or it starts where literals are closed. -/
def IsCommentOf (code comment : List Char) : Prop :=
  comment = [] ∨ startsComment comment = true ∧ Quoting.outside.after code = .outside

/-- A line that was read, in a block comment or outside, and that will be read so again. -/
structure Line.IsRead (inBlock : Bool) (line : Line) : Prop where
  content : IsTrimmed line.content
  clear : IsClear .outside line.content
  comment : IsTrimmed line.comment
  starts : if inBlock then line.content = [] else IsCommentOf line.content line.comment
  flat : IsFlat line.content
  flat' : IsFlat line.comment

/-- Whether a block comment goes on behind the line. -/
def Line.leavesBlock (inBlock : Bool) (line : Line) : Bool :=
  if inBlock then !hasInfix ['*', '/'] line.comment else leavesBlockOpen line.comment

/-- Lines of which the first one starts in a block comment or not. -/
def AreRead (inBlock : Bool) : List Line → Prop
  | [] => True
  | line :: rest => line.IsRead inBlock ∧ AreRead (line.leavesBlock inBlock) rest

theorem isFlat_of_drawn {code cs : List Char} (flat : IsFlat code) (drawn : ∀ c ∈ cs, c ∈ code ∨ c = ' ') :
    IsFlat cs := by
  intro c mem
  rcases drawn c mem with mem | rfl
  · exact flat c mem
  · decide

theorem exists_of_startsComment {cs : List Char} (h : startsComment cs = true) :
    ∃ d rest, cs = '/' :: d :: rest ∧ (d = '/' ∨ d = '*') := by
  unfold startsComment at h
  split at h
  · exact ⟨'/', _, rfl, .inl rfl⟩
  · exact ⟨'*', _, rfl, .inr rfl⟩
  · cases h

theorem trim_comment {d : Char} (mark : isBlank d = false) (cs : List Char) :
    trim ('/' :: d :: cs) = '/' :: d :: trimEnd cs := by
  rw [trim, trimStart, List.dropWhile_cons_of_neg (by decide), trimEnd_cons (by decide), trimEnd_cons mark]

theorem startsComment_trim {cs : List Char} (h : startsComment cs = true) : startsComment (trim cs) = true := by
  obtain ⟨d, rest, rfl, mark⟩ := exists_of_startsComment h
  have ink : isBlank d = false := by rcases mark with rfl | rfl <;> decide
  rw [trim_comment ink]
  rw [startsComment_cons] at h ⊢
  exact h

theorem isFlat_nil : IsFlat [] :=
  fun _ mem => absurd mem List.not_mem_nil

theorem isFlat_trim {cs : List Char} (flat : IsFlat cs) : IsFlat (trim cs) := by
  obtain ⟨before, after, equal, -⟩ := exists_trim cs
  rw [equal] at flat
  exact fun c mem => flat c (List.mem_append_left _ (List.mem_append_right _ mem))

theorem isRead_of_isContentOf {code content comment : List Char} (h : IsContentOf code content) (flat : IsFlat code)
    (isComment : IsCommentOf code comment) (trimmed : IsTrimmed comment) (flat' : IsFlat comment) :
    Line.IsRead false ⟨content, comment⟩ :=
  ⟨h.trimmed, h.clear, trimmed, isComment.imp_right fun ⟨starts, closed⟩ => ⟨starts, h.closed closed⟩,
    isFlat_of_drawn flat h.drawn, flat'⟩

theorem areRead_withComment {code comment : List Char} {parts : List (List Char)} {rest : List Line}
    (h : ∀ part ∈ parts, IsContentOf code part) (flat : IsFlat code) (isComment : IsCommentOf code comment)
    (trimmed : IsTrimmed comment) (flat' : IsFlat comment) (further : AreRead (leavesBlockOpen comment) rest) :
    AreRead false (withComment comment parts ++ rest) := by
  fun_induction withComment comment parts with
  | case1 =>
    exact ⟨⟨isTrimmed_nil, isClear_nil _, trimmed, isComment.imp_right fun starts => ⟨starts.1, rfl⟩, isFlat_nil,
      flat'⟩, further⟩
  | case2 last =>
    exact ⟨isRead_of_isContentOf (h _ (List.mem_singleton_self _)) flat isComment trimmed flat', further⟩
  | case3 first others _ ih =>
    obtain ⟨here, there⟩ := List.forall_mem_cons.1 h
    exact ⟨isRead_of_isContentOf here flat (.inl rfl) isTrimmed_nil isFlat_nil, ih there⟩

theorem areRead_linesOf {code comment : List Char} {rest : List Line} (trimmed : IsTrimmed code)
    (clear : IsClear .outside code) (flat : IsFlat code) (isComment : IsCommentOf code comment)
    (trimmed' : IsTrimmed comment) (flat' : IsFlat comment) (further : AreRead (leavesBlockOpen comment) rest) :
    AreRead false (linesOf code comment ++ rest) := by
  unfold linesOf
  split
  · have content := isContentOf_collapse trimmed clear
    exact ⟨isRead_of_isContentOf content flat isComment trimmed' flat', further⟩
  · exact areRead_withComment (fun p mem => isContentOf_of_mem_pieces clear mem) flat isComment trimmed'
      flat' further

/-- The output lines of a text can be read back. -/
theorem areRead_linesFrom (inBlock : Bool) {raws : List (List Char)} (flat : ∀ raw ∈ raws, IsFlat raw) :
    AreRead inBlock (linesFrom inBlock raws) := by
  induction raws generalizing inBlock with
  | nil => trivial
  | cons raw raws ih =>
    obtain ⟨here, there⟩ := List.forall_mem_cons.1 flat
    cases inBlock with
    | true =>
      exact ⟨⟨isTrimmed_nil, isClear_nil _, isTrimmed_trim _, rfl, isFlat_nil, isFlat_trim here⟩, ih _ there⟩
    | false =>
      have whole := splitComment_append .outside raw
      have clear := isClear_splitComment .outside raw
      have found := startsComment_splitComment .outside raw
      simp only [linesFrom, Bool.false_eq_true, if_false]
      generalize (splitComment .outside raw).1 = code at *
      generalize (splitComment .outside raw).2 = comment at *
      subst whole
      have content := isContentOf_trim clear
      have isComment : IsCommentOf (trim code) (trim comment) := by
        rcases found with rfl | ⟨starts, closed⟩
        · exact .inl rfl
        · exact .inr ⟨startsComment_trim starts, content.closed closed⟩
      exact areRead_linesOf content.trimmed content.clear (isFlat_trim fun c mem => here c (List.mem_append_left _ mem))
        isComment (isTrimmed_trim _) (isFlat_trim fun c mem => here c (List.mem_append_right _ mem)) (ih _ there)

@[simp] theorem respaceContent_nil : respaceContent [] = [] := by
  rw [respaceContent, if_neg (by decide), respace, tokens, tokensFrom, respaceFrom]

/-- Spacing the tokens of lines does not change how they will be read. -/
theorem AreRead.map_respaced {inBlock : Bool} {lines : List Line} (h : AreRead inBlock lines) :
    AreRead inBlock (lines.map Line.respaced) := by
  induction lines generalizing inBlock with
  | nil => trivial
  | cons line lines ih =>
    obtain ⟨here, there⟩ := h
    refine ⟨?_, ih there⟩
    have content := isContentOf_respaceContent here.content here.clear
    refine ⟨content.trimmed, content.clear, here.comment, ?_, isFlat_of_drawn here.flat content.drawn, here.flat'⟩
    have starts := here.starts
    cases inBlock with
    | true =>
      have empty : line.content = [] := starts
      simp [Line.respaced, empty]
    | false => exact starts.imp_right fun starts => ⟨starts.1, content.closed starts.2⟩

/-! ## Reading lines back -/

/-- The output lines that become of the text of an output line. -/
def Line.reread (line : Line) : List Line :=
  linesOf line.content line.comment

theorem reread_of_comment (comment : List Char) : Line.reread ⟨[], comment⟩ = [⟨[], comment⟩] := by
  simp [Line.reread, linesOf, pieces, piecesFrom, piece, trim, trimStart, trimEnd, trimEndWhile, withComment]

theorem areBlank_spaces (n : Nat) : AreBlank (spaces n) := by
  intro c mem
  rw [List.eq_of_mem_replicate mem]
  decide

theorem ne_slash_of_areBlank {cs : List Char} (blank : AreBlank cs) : cs.getLast? ≠ some '/' :=
  fun last => slash_not_mem_of_areBlank blank (List.mem_of_getLast? last)

/-- Blanks stand around the content of a line that is laid out, and behind it if a comment follows. -/
theorem exists_layOut {tabSize : Nat} (pos : 0 < tabSize) (indent : Nat) {line : Line}
    (trimmed : IsTrimmed line.comment) : ∃ before after, AreBlank before ∧ AreBlank after ∧
      layOut tabSize indent line = before ++ line.content ++ after ++ line.comment ∧
      (line.comment ≠ [] → (before ++ line.content ++ after).getLast? ≠ some '/') := by
  obtain ⟨content, comment⟩ := line
  have kept : trimEnd comment = comment := by simpa using trimEnd_append areBlank_nil trimmed.last
  unfold layOut
  split
  · rename_i empty
    simp only [Bool.and_eq_true, List.isEmpty_iff] at empty
    obtain ⟨rfl, rfl⟩ := empty
    exact ⟨[], [], areBlank_nil, areBlank_nil, rfl, fun ne => absurd rfl ne⟩
  · simp only [kept]
    split
    · rename_i none
      refine ⟨spaces indent, [], areBlank_spaces indent, areBlank_nil, by simp, fun ne => ?_⟩
      have empty : content = [] := by simpa [ne] using none
      simpa [empty] using ne_slash_of_areBlank (areBlank_spaces indent)
    · refine ⟨spaces indent, _, areBlank_spaces indent, areBlank_spaces _, rfl, fun _ => ?_⟩
      have width := Nat.mod_lt (indent + content.length) pos
      have gap : spaces (tabSize - (indent + content.length) % tabSize) ≠ [] := by
        rw [spaces, ne_eq, List.replicate_eq_nil_iff]
        omega
      rw [List.getLast?_append_of_ne_nil _ gap]
      exact ne_slash_of_areBlank (areBlank_spaces _)

/-- Code with blanks around it is clear. -/
theorem isClear_between {before code after : List Char} (blank : AreBlank before) (clear : IsClear .outside code)
    (blank' : AreBlank after) : IsClear .outside (before ++ code ++ after) := by
  have start := isClear_of_not_mem (slash_not_mem_of_areBlank blank) .outside
  have stop := isClear_of_not_mem (slash_not_mem_of_areBlank blank')
  have first : IsClear .outside (before ++ code) :=
    start.append ((after_of_areBlank blank).symm ▸ clear) (joins_of_ne (ne_slash_of_areBlank blank) _)
  refine first.append (stop _) fun _ => ?_
  cases after with
  | nil => rfl
  | cons c cs =>
    have here := blank' c List.mem_cons_self
    rw [startsComment_cons]
    have slash : c ≠ '/' := fun h => absurd (h ▸ here) (by decide)
    have star : c ≠ '*' := fun h => absurd (h ▸ here) (by decide)
    simp [slash, star]

/-- Code and comment of the text of a line. -/
theorem splitComment_layOut {tabSize : Nat} (pos : 0 < tabSize) (indent : Nat) {line : Line} (h : line.IsRead false) :
    trim (splitComment .outside (layOut tabSize indent line)).1 = line.content ∧
      trim (splitComment .outside (layOut tabSize indent line)).2 = line.comment := by
  obtain ⟨before, after, blank, blank', equal, last⟩ := exists_layOut pos indent h.comment
  have clear := isClear_between blank h.clear blank'
  have split : splitComment .outside (layOut tabSize indent line) =
      (before ++ line.content ++ after, line.comment) := by
    rw [equal]
    rcases h.starts with empty | ⟨starts, closed⟩
    · rw [empty, List.append_nil]
      exact clear
    · have closed' : Quoting.outside.after (before ++ line.content ++ after) = .outside := by
        rw [Quoting.after_append, Quoting.after_append, after_of_areBlank blank, closed, after_of_areBlank blank']
      refine splitComment_append_of_isClear clear closed' starts (last ?_)
      intro empty
      rw [empty] at starts
      cases starts
  rw [split]
  exact ⟨trim_eq blank h.content blank', h.comment.trim⟩

theorem linesFrom_layOut {tabSize : Nat} (pos : 0 < tabSize) (indent : Nat) {inBlock : Bool} {line : Line}
    (h : line.IsRead inBlock) (raws : List (List Char)) : linesFrom inBlock (layOut tabSize indent line :: raws) =
      line.reread ++ linesFrom (line.leavesBlock inBlock) raws := by
  cases inBlock with
  | true =>
    obtain ⟨content, comment⟩ := line
    obtain rfl : content = [] := h.starts
    obtain ⟨before, after, blank, blank', equal, -⟩ := exists_layOut pos indent h.comment
    have all : AreBlank (before ++ after) := List.forall_mem_append.2 ⟨blank, blank'⟩
    have comment' : trim (layOut tabSize indent ⟨[], comment⟩) = comment := by
      simpa [equal] using trim_eq all h.comment areBlank_nil
    simp only [linesFrom, if_true, comment', reread_of_comment]
    rfl
  | false =>
    obtain ⟨code, comment⟩ := splitComment_layOut pos indent h
    simp only [linesFrom, Bool.false_eq_true, if_false, code, comment]
    rfl

/-- Laid out lines are read back, each one on its own. -/
theorem linesFrom_indentFrom {tabSize : Nat} (pos : 0 < tabSize) (n : Nesting) {inBlock : Bool} {lines : List Line}
    (h : AreRead inBlock lines) : linesFrom inBlock (indentFrom tabSize n lines) = lines.flatMap Line.reread := by
  induction lines generalizing n inBlock with
  | nil => rfl
  | cons line lines ih =>
    rw [indentFrom, linesFrom_layOut pos _ h.1, ih _ h.2, List.flatMap_cons]

end ShaderAnalysis.Format
