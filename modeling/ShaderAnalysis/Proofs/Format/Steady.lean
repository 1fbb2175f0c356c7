import ShaderAnalysis.Proofs.Format.Again
import ShaderAnalysis.Proofs.Format.Whole

/-!
# Texts that are formatted once and for all

A line is steady if its code is one piece in which no tokens clash. What formatting makes of a steady line, it leaves
as it is (`Line.IsSteady.reformatted_respaced`), so a text of steady lines is formatted once and for all
(`formatCode_formatCode`).
-/

namespace ShaderAnalysis

namespace Format

open Text

/-! ## Single spaces -/

/-- Outside literals, all blanks are single spaces in front of something else. -/
def IsTight (q : Quoting) : List Char → Prop
  | [] => True
  | c :: cs =>
    if q = .outside ∧ isBlank c = true then c = ' ' ∧ (∃ d ∈ cs.head?, isBlank d = false) ∧ IsTight q cs
    else IsTight (q.next c) cs

theorem length_collapseFrom_le (q : Quoting) (pending : Bool) (cs : List Char) :
    (collapseFrom q pending cs).length ≤ cs.length + pending.toNat := by
  induction cs generalizing q pending with
  | nil => exact Nat.zero_le _
  | cons c cs ih =>
    have due := ih q true
    have none := ih (q.next c) false
    rw [collapseFrom]
    simp only [Bool.toNat_true, Bool.toNat_false] at due none
    split
    · rw [List.length_cons]
      omega
    · cases pending <;> simp <;> omega

/-- Collapsing changes nothing exactly if the blanks are single spaces. -/
theorem collapseFrom_eq_iff {q : Quoting} {cs : List Char} : collapseFrom q false cs = cs ↔ IsTight q cs := by
  induction cs generalizing q with
  | nil => exact ⟨fun _ => trivial, fun _ => rfl⟩
  | cons c cs ih =>
    rw [collapseFrom, IsTight]
    split
    · rename_i blank
      obtain rfl := blank.1
      cases cs with
      | nil => simp [collapseFrom]
      | cons d ds =>
        cases ink : isBlank d with
        | true =>
          have short := length_collapseFrom_le .outside true ds
          rw [collapseFrom, if_pos ⟨rfl, ink⟩]
          refine ⟨fun same => ?_, fun tight => ?_⟩
          · rw [same] at short
            simp only [List.length_cons, Bool.toNat_true] at short
            omega
          · simp [ink] at tight
        | false =>
          rw [← ih, collapseFrom, collapseFrom, if_neg (by simp [ink]), if_pos rfl, if_neg (by simp [ink]),
            if_neg (by decide)]
          simp only [List.cons.injEq, true_and, List.head?_cons, Option.mem_some, exists_eq_left', ink]
          exact and_congr_left' eq_comm
    · rw [if_neg (by decide), List.cons.injEq, ih]
      exact ⟨And.right, fun tight => ⟨rfl, tight⟩⟩

theorem IsTight.left {q : Quoting} {cs ds : List Char} (h : IsTight q (cs ++ ds)) (last : cs.getLast? ≠ some ' ') :
    IsTight q cs := by
  induction cs generalizing q with
  | nil => trivial
  | cons c cs ih =>
    have last' : cs.getLast? ≠ some ' ' := fun h => last (by rw [List.getLast?_cons, h]; rfl)
    rw [List.cons_append, IsTight] at h
    rw [IsTight]
    split at h
    · rename_i blank
      obtain ⟨rfl, next, rest⟩ := h
      rw [if_pos blank]
      refine ⟨rfl, ?_, ih rest last'⟩
      cases cs with
      | nil => exact absurd rfl last
      | cons d cs => exact next
    · rename_i other
      rw [if_neg other]
      exact ih h last'

theorem IsTight.right {q : Quoting} {cs ds : List Char} (h : IsTight q (cs ++ ds)) : IsTight (q.after cs) ds := by
  induction cs generalizing q with
  | nil => exact h
  | cons c cs ih =>
    rw [List.cons_append, IsTight] at h
    split at h
    · rename_i blank
      obtain rfl := blank.1
      rw [Quoting.after_cons, Quoting.next_of_isBlank blank.2]
      exact ih h.2.2
    · exact ih h

theorem IsTight.append {q : Quoting} {cs ds : List Char} (first : IsTight q cs) (second : IsTight (q.after cs) ds) :
    IsTight q (cs ++ ds) := by
  induction cs generalizing q with
  | nil => exact second
  | cons c cs ih =>
    rw [IsTight] at first
    rw [List.cons_append, IsTight]
    split at first
    · rename_i blank
      obtain rfl := blank.1
      rw [Quoting.after_cons, Quoting.next_of_isBlank blank.2] at second
      obtain ⟨space, ⟨d, next, ink⟩, rest⟩ := first
      rw [if_pos blank]
      exact ⟨space, ⟨d, by rw [List.head?_append, Option.mem_def.1 next]; rfl, ink⟩, ih rest second⟩
    · rename_i other
      rw [if_neg other]
      exact ih first second

/-- No token but an open literal ends with a space. -/
theorem getLast?_ne_space {c : Char} {cs : List Char} {kind : TokenKind} {more : Nat}
    (shape : tokenShape c cs = (kind, more)) (ink : ¬isAsciiBlank c = true) (further : cs.drop more ≠ []) :
    (c :: cs.take more).getLast? ≠ some ' ' := by
  intro last
  have mem := List.mem_of_getLast? last
  cases kind with
  | word => exact absurd (isInWord_of_mem_word shape ' ' mem) (by decide)
  | text =>
    obtain ⟨rfl, rfl⟩ := quote_of_tokenShape shape
    have last' := ((literalLength_spec cs).resolve_left further).2
    simp [List.getLast?_cons, last'] at last
  | operator =>
    rcases (isOperator_of_tokenShape shape).text with alone | ⟨op, listed, equal⟩
    · rw [alone, List.mem_singleton] at mem
      exact ink (mem ▸ by decide)
    · rw [equal] at mem
      have none : ∀ op ∈ longOperators, ' ' ∉ op.toList := by decide
      exact none op listed mem

/-- Spacing the tokens of code with single spaces leaves single spaces. -/
theorem isTight_respaceFrom (prev : Option (Token × Bool)) {spaced : Bool} {code : List Char}
    (tight : IsTight .outside code) : IsTight .outside (respaceFrom prev (tokensFrom spaced code)) := by
  fun_induction tokensFrom spaced code generalizing prev with
  | case1 => trivial
  | case2 _ c cs blank ih =>
    rw [IsTight, if_pos ⟨rfl, isBlank_of_isAsciiBlank blank⟩] at tight
    exact ih prev tight.2.2
  | case3 spaced c cs visible kind more shape ih =>
    have ink : isBlank c = false := by
      rw [← Bool.not_eq_true]
      intro blank
      rw [IsTight, if_pos ⟨rfl, blank⟩] at tight
      exact visible (tight.1 ▸ by decide)
    rw [← List.take_append_drop more cs, ← List.cons_append] at tight
    rw [respaceFrom_cons, List.append_assoc]
    generalize isUnary _ _ _ = unary
    have unspaced : IsTight .outside
        (c :: cs.take more ++ respaceFrom (some (⟨c :: cs.take more, kind, spaced⟩, unary))
          (tokensFrom false (cs.drop more))) := by
      by_cases last : cs.drop more = []
      · rw [last, List.append_nil] at tight
        rw [last, tokensFrom, respaceFrom_nil, List.append_nil]
        exact tight
      · have closed := (isTokenText_of_tokenShape shape).closed.resolve_left last
        refine (tight.left (getLast?_ne_space shape visible last)).append ?_
        rw [closed]
        exact ih _ (closed ▸ tight.right)
    split
    · rw [List.singleton_append, IsTight, if_pos (by decide)]
      exact ⟨rfl, ⟨c, rfl, ink⟩, unspaced⟩
    · exact unspaced

theorem collapse_eq_iff {code : List Char} (trimmed : IsTrimmed code) :
    collapse code = code ↔ IsTight .outside code := by
  rw [collapse, trimmed.trim, collapseFrom_eq_iff]

/-- Blanks that are collapsed stay so when tokens are spaced. -/
theorem collapse_respace {code : List Char} (trimmed : IsTrimmed code) (clear : IsClear .outside code)
    (collapsed : collapse code = code) : collapse (respace code) = respace code := by
  have trimmed' := (isContentOf_respace trimmed clear).trimmed
  rw [collapse_eq_iff trimmed']
  exact isTight_respaceFrom none ((collapse_eq_iff trimmed).1 collapsed)

/-! ## Steady lines -/

/-- A line that is not broken further and in which no tokens clash. The blanks of a directive are single spaces; one
that includes a file is not read as tokens. -/
def Line.IsSteady (line : Line) : Prop :=
  line.content = [] ∨ if line.content.head? = some '#' then
    collapse line.content = line.content ∧ (isInclusion line.content = true ∨ AreApart (tokens line.content))
  else pieces line.content = [line.content] ∧ AreApart (tokens line.content)

instance (line : Line) : Decidable line.IsSteady :=
  inferInstanceAs (Decidable (_ ∨ _))

theorem head?_respace {code : List Char} (first : ∀ c ∈ code.head?, isBlank c = false) :
    (respace code).head? = code.head? := by
  cases code with
  | nil => simp [respace, tokens, tokensFrom]
  | cons c cs =>
    have ink := first c rfl
    have ascii : ¬isAsciiBlank c = true := fun h => absurd ((isBlank_of_isAsciiBlank h).symm.trans ink) (by decide)
    rw [respace, tokens, tokensFrom, if_neg ascii]
    rfl

theorem head?_respaceContent {content : List Char} (trimmed : IsTrimmed content) :
    (respaceContent content).head? = content.head? := by
  rw [respaceContent, apply_ite List.head?, head?_collapse trimmed, head?_respace trimmed.first, ite_self]

theorem isInclusion_eq_false {content : List Char} (other : content.head? ≠ some '#') :
    isInclusion content = false := by
  unfold isInclusion
  split
  · exact absurd rfl other
  · rfl

/-- A directive with single spaces is spaced once and for all. -/
theorem steady_of_directive {content : List Char} (trimmed : IsTrimmed content) (clear : IsClear .outside content)
    (collapsed : collapse content = content) (apart : isInclusion content = true ∨ AreApart (tokens content)) :
    collapse (respaceContent content) = respaceContent content ∧
      respaceContent (respaceContent content) = respaceContent content := by
  by_cases inclusion : isInclusion content = true
  · have same : respaceContent content = content := (if_pos inclusion).trans collapsed
    rw [same, same]
    exact ⟨collapsed, rfl⟩
  · have spaced : respaceContent content = respace content := if_neg inclusion
    have single := collapse_respace trimmed clear collapsed
    rw [spaced]
    refine ⟨single, ?_⟩
    rw [respaceContent, single, respace_respace (apart.resolve_left inclusion), ite_self]

/-- What formatting makes of a steady line, it leaves as it is. -/
theorem Line.IsSteady.reformatted_respaced {inBlock : Bool} {line : Line} (steady : line.IsSteady)
    (h : line.IsRead inBlock) : line.respaced.reformatted = [line.respaced] := by
  obtain ⟨content, comment⟩ := line
  have trimmed : IsTrimmed content := h.content
  have clear : IsClear .outside content := h.clear
  suffices stays : linesOf (respaceContent content) comment = [⟨respaceContent content, comment⟩] ∧
      respaceContent (respaceContent content) = respaceContent content by
    rw [Line.reformatted, Line.reread, Line.respaced, stays.1, List.map_singleton, Line.respaced, stays.2]
  rcases steady with empty | steady
  · obtain rfl : content = [] := empty
    rw [respaceContent_nil, respaceContent_nil]
    exact ⟨reread_of_comment comment, rfl⟩
  split at steady
  · rename_i directive
    obtain ⟨collapsed, apart⟩ := steady
    obtain ⟨single, again⟩ := steady_of_directive trimmed clear collapsed apart
    refine ⟨?_, again⟩
    have head : (respaceContent content).head? = some '#' := (head?_respaceContent trimmed).trans directive
    rw [linesOf, if_pos head, single]
  · rename_i other
    obtain ⟨whole, apart⟩ : pieces content = [content] ∧ AreApart (tokens content) := steady
    have spaced : respaceContent content = respace content := by
      rw [respaceContent, isInclusion_eq_false other, if_neg (by decide)]
    have other' : (respace content).head? ≠ some '#' := by rwa [head?_respace trimmed.first]
    have again : respaceContent (respace content) = respace content := by
      rw [respaceContent, isInclusion_eq_false other', if_neg (by decide), respace_respace apart]
    rw [spaced, again]
    refine ⟨?_, rfl⟩
    have nonempty : content ≠ [] := by
      rintro rfl
      rw [pieces, piecesFrom, piece_nil] at whole
      cases whole
    have pieces : pieces (respace content) = [respace content] :=
      ((isWhole_of_pieces_eq trimmed whole).respace apart).pieces_eq (isContentOf_respace trimmed clear).trimmed
        (respace_ne_nil nonempty trimmed.last)
    rw [linesOf, if_neg other', pieces, withComment]

theorem AreRead.exists_isRead {inBlock : Bool} {lines : List Line} (h : AreRead inBlock lines) :
    ∀ line ∈ lines, ∃ inBlock, line.IsRead inBlock := by
  induction lines generalizing inBlock with
  | nil => exact fun line mem => absurd mem List.not_mem_nil
  | cons line lines ih => exact List.forall_mem_cons.2 ⟨⟨inBlock, h.1⟩, ih h.2⟩

end Format

/-- Formatting a formatted text again changes nothing if the lines that the text is broken into are steady. -/
theorem formatCode_formatCode {text : String}
    (steady : ∀ line ∈ Format.splitText (text.toList.filter (· != '\r')), line.IsSteady) (tabSize : Nat) :
    formatCode (formatCode text tabSize) tabSize = formatCode text tabSize := by
  open Format in
  have stays : ∀ line ∈ formattedLines text.toList, line.reformatted = [line] := by
    intro line mem
    obtain ⟨line, inLines, rfl⟩ := List.mem_map.1 mem
    obtain ⟨inBlock, isRead⟩ := (areRead_splitText text.toList).exists_isRead line inLines
    exact (steady line inLines).reformatted_respaced isRead
  rw [formatCode, formatCode, String.toList_ofList, formatChars_formatChars_of_stays stays]

example : ∀ line ∈ Format.splitText "_Tex(\"T\",2D)=\"white\"\x7b\x7d i=a<b?-1:+ +c[i]; // d".toList,
    line.IsSteady := by
  decide +kernel

end ShaderAnalysis
