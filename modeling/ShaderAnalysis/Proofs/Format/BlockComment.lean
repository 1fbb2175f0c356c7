import ShaderAnalysis.Proofs.Format.Again
import ShaderAnalysis.Proofs.Lexical.Lines

/-!
# Block comments

Lines are taken apart one by one, and whether a block comment goes on behind a line is told by the marks on it. The
scanner tells the same unless it reads one as going on behind a mark that closes one (`leavesLineOpen_eq_iff`). So a
line that starts in a block comment is left alone as long as the two tell the same of all lines before it
(`block_line_kept`).
-/

namespace ShaderAnalysis.Format

open Text

open Lexical (State blockGoesOn lineStart)

/-! ## Marks that close a block comment -/

theorem hasInfix_cons (c : Char) (cs : List Char) : hasInfix ['*', '/'] (c :: cs) =
    (c == '*' && cs.head? == some '/' || hasInfix ['*', '/'] cs) := by
  have mark : ['*', '/'].isPrefixOf (c :: cs) = (c == '*' && cs.head? == some '/') := by
    cases cs with
    | nil => simp [List.isPrefixOf]
    | cons d ds =>
      simp only [List.isPrefixOf, List.head?_cons, Option.some_beq_some, Bool.and_true]
      rw [BEq.comm, @BEq.comm _ _ _ '/']
  rw [hasInfix, mark]

theorem hasInfix_append_of_areBlank {before : List Char} (blank : AreBlank before) (cs : List Char) :
    hasInfix ['*', '/'] (before ++ cs) = hasInfix ['*', '/'] cs := by
  induction before with
  | nil => rfl
  | cons c before ih =>
    obtain ⟨here, there⟩ := List.forall_mem_cons.1 blank
    have other : (c == '*') = false := by
      rw [beq_eq_false_iff_ne]
      rintro rfl
      exact absurd here (by decide)
    rw [List.cons_append, hasInfix_cons, other, ih there]
    rfl

theorem hasInfix_append_blank {after : List Char} (blank : AreBlank after) (cs : List Char) :
    hasInfix ['*', '/'] (cs ++ after) = hasInfix ['*', '/'] cs := by
  induction cs with
  | nil => simpa using hasInfix_append_of_areBlank blank []
  | cons c cs ih =>
    have same : ((cs ++ after).head? == some '/') = (cs.head? == some '/') := by
      cases cs with
      | cons d ds => rfl
      | nil =>
        cases after with
        | nil => rfl
        | cons d ds =>
          have other : d ≠ '/' := by
            rintro rfl
            exact absurd (blank '/' List.mem_cons_self) (by decide)
          simp [other]
    rw [List.cons_append, hasInfix_cons, hasInfix_cons, same, ih]

theorem hasInfix_trim (cs : List Char) : hasInfix ['*', '/'] (trim cs) = hasInfix ['*', '/'] cs := by
  obtain ⟨before, after, equal, blank, blank', -⟩ := exists_trim cs
  conv_rhs => rw [equal]
  rw [hasInfix_append_blank blank', hasInfix_append_of_areBlank blank]

/-- A block comment that no mark closes goes on. -/
theorem behind_block {cs : List Char} (unclosed : hasInfix ['*', '/'] cs = false) :
    (State.within .block).behind (cs ++ ['\n']) = .within .block := by
  induction cs with
  | nil => rfl
  | cons c cs ih =>
    rw [hasInfix_cons, Bool.or_eq_false_iff] at unclosed
    have first : ¬(c = '*' ∧ (cs ++ ['\n']).head? = some '/') := by
      rintro ⟨rfl, slash⟩
      cases cs with
      | nil => cases slash
      | cons d ds =>
        obtain rfl : d = '/' := Option.some.inj slash
        cases unclosed.1
    rw [List.cons_append, State.behind_cons, State.next_block, if_neg first, ih unclosed.2]

theorem behind_lineComment {cs : List Char} (flat : '\n' ∉ cs) :
    (State.within .line).behind (cs ++ ['\n']) = .within .code := by
  induction cs with
  | nil => rfl
  | cons c cs ih =>
    rw [List.mem_cons, not_or] at flat
    rw [List.cons_append, State.behind_cons, State.next_line, if_neg (Ne.symm flat.1), ih flat.2]

/-! ## Where the comment of a line starts -/

/-- Whether no quote and no comment stands in a character literal, up to the first comment. -/
def isPlain (s : State) : List Char → Bool
  | [] => true
  | c :: cs => s.content.isComment ||
      ((s.content != .char || (c != '"' && !startsComment (c :: cs))) && isPlain (s.next c cs.head?) cs)

/-- How the place of a character with respect to string literals goes with the state of the scanner, which also
knows character literals; `rest` is what the line has from there on. -/
def Quoting.Matches (q : Quoting) (s : State) (rest : List Char) : Prop :=
  match q with
  | .outside => s = .within .code ∨ s = .within .char ∨ s = .second .char .char ∧ rest ≠ []
  | .inside => s = .within .string
  | .escaped => if rest = [] then s = .within .string else s = .second .string .string

section

variable {q : Quoting} {s : State}

theorem Quoting.Matches.isComment {rest : List Char} (h : q.Matches s rest) : s.content.isComment = false := by
  cases q with
  | outside => rcases h with rfl | rfl | ⟨rfl, -⟩ <;> rfl
  | inside =>
    obtain rfl : s = .within .string := h
    rfl
  | escaped =>
    simp only [Matches] at h
    split at h <;> rw [h] <;> rfl

theorem Quoting.Matches.behind_feed (h : q.Matches s []) : s.behind ['\n'] = .within .code := by
  cases q with
  | outside =>
    rcases h with rfl | rfl | ⟨-, nonempty⟩
    · rfl
    · rfl
    · exact absurd rfl nonempty
  | inside =>
    obtain rfl : s = .within .string := h
    rfl
  | escaped =>
    obtain rfl : s = .within .string := h
    rfl

theorem head?_append_feed {cs : List Char} (flat : '\n' ∉ cs) :
    (cs ++ ['\n']).head? = none ∨ (cs ++ ['\n']).head? = some '\n' ↔ cs = [] := by
  cases cs with
  | nil => simp
  | cons c cs =>
    rw [List.mem_cons, not_or] at flat
    simp [Ne.symm flat.1]

/-- A character in front of comments is read alike, if it does not end a literal for one of the two only. -/
theorem Quoting.Matches.next {c : Char} {cs : List Char} (h : q.Matches s (c :: cs)) (flat : '\n' ∉ c :: cs)
    (code : q = .outside → startsComment (c :: cs) = false) (plain : s.content = .char → c ≠ '"') :
    (q.next c).Matches (s.next c (cs ++ ['\n']).head?) cs := by
  rw [List.mem_cons, not_or] at flat
  obtain ⟨feed, flat⟩ := flat
  have last := head?_append_feed flat
  cases q with
  | outside =>
    rcases h with rfl | rfl | ⟨rfl, -⟩
    · have clear := code rfl
      rw [startsComment_cons] at clear
      have other {d : Char} (mark : d = '/' ∨ d = '*') : ¬(c = '/' ∧ (cs ++ ['\n']).head? = some d) := by
        rintro ⟨rfl, second⟩
        cases cs with
        | nil =>
          obtain rfl : '\n' = d := Option.some.inj second
          exact absurd mark (by decide)
        | cons e es =>
          obtain rfl : e = d := Option.some.inj second
          rcases mark with rfl | rfl <;> cases clear
      have line := other (.inl rfl)
      have block := other (.inr rfl)
      rw [Quoting.next, State.next_code, if_neg line, if_neg block]
      split_ifs
      · rfl
      · exact .inr (.inl rfl)
      · exact .inl rfl
    · rw [Quoting.next_outside (plain rfl), State.next_char]
      split_ifs with escape alone
      · exact .inr (.inl rfl)
      · exact .inr (.inr ⟨rfl, fun empty => alone (last.2 empty)⟩)
      · exact .inl rfl
      · exact .inr (.inl rfl)
    · rw [Quoting.next_outside (plain rfl)]
      exact .inr (.inl rfl)
  | inside =>
    obtain rfl : s = .within .string := h
    have ends : (c = '\n' ∨ c = '"') = (c = '"') := by simp [Ne.symm feed]
    simp only [State.next_string, Quoting.next, ends]
    split_ifs with escape alone quote
    · rw [Matches, if_pos (last.1 alone)]
    · rw [Matches, if_neg fun empty => alone (last.2 empty)]
    · exact .inl rfl
    · rfl
  | escaped =>
    obtain rfl : s = .second .string .string := h
    rfl

/-- The scanner is in code where the comment of a line starts, and behind a line without one. -/
theorem behind_splitComment {cs : List Char} (matched : q.Matches s cs) (flat : '\n' ∉ cs)
    (plain : isPlain s (cs ++ ['\n']) = true) :
    s.behind (cs ++ ['\n']) = (State.within .code).behind ((splitComment q cs).2 ++ ['\n']) := by
  induction cs generalizing q s with
  | nil => exact matched.behind_feed
  | cons c cs ih =>
    rw [List.cons_append, isPlain, matched.isComment, Bool.false_or, Bool.and_eq_true] at plain
    obtain ⟨here, there⟩ := plain
    have starts : startsComment (c :: (cs ++ ['\n'])) = startsComment (c :: cs) := by
      cases cs with
      | nil => simp [startsComment_cons]
      | cons d ds => exact startsComment_append ..
    rw [starts] at here
    rw [splitComment]
    split
    · rename_i comment
      obtain ⟨rfl, isComment⟩ := comment
      rcases matched with rfl | rfl | ⟨rfl, -⟩
      · rfl
      · simp [isComment, State.content] at here
      · simp [isComment, State.content] at here
    · rename_i code
      have code : q = .outside → startsComment (c :: cs) = false := by
        intro outside
        simpa [outside] using code
      have plain : s.content = .char → c ≠ '"' := by
        intro literal
        rw [literal] at here
        rintro rfl
        cases here
      exact ih (matched.next flat code plain) (fun mem => flat (List.mem_cons_of_mem c mem)) there

end

/-! ## Lines in a block comment -/

/-- Whether a block comment goes on behind a line that starts in one or not, as lines are taken apart. -/
def leavesLineOpen (inBlock : Bool) (raw : List Char) : Bool :=
  if inBlock then !hasInfix ['*', '/'] (trim raw) else leavesBlockOpen (trim (splitComment .outside raw).2)

theorem linesFrom_append (inBlock : Bool) (raws raws' : List (List Char)) :
    linesFrom inBlock (raws ++ raws') =
      linesFrom inBlock raws ++ linesFrom (raws.foldl leavesLineOpen inBlock) raws' := by
  induction raws generalizing inBlock with
  | nil => rfl
  | cons raw raws ih =>
    cases inBlock with
    | true => exact congrArg (_ :: ·) (ih _)
    | false =>
      rw [List.cons_append, linesFrom, linesFrom, if_neg (by decide), if_neg (by decide), List.foldl_cons]
      simp only [ih, List.append_assoc]
      rfl

/-- The comment that a line starts in, or that starts on it. -/
def commentOf (inBlock : Bool) (raw : List Char) : List Char :=
  if inBlock then raw else (splitComment .outside raw).2

theorem leavesBlockOpen_trim (cs : List Char) :
    leavesBlockOpen (trim ('/' :: '*' :: cs)) = !hasInfix ['*', '/'] ('/' :: '*' :: cs) := by
  rw [← hasInfix_trim, trim_comment (by decide), leavesBlockOpen]
  rfl

/-- Without a mark that closes a comment, both readings tell the same. -/
theorem leavesLineOpen_eq_of_unclosed {inBlock : Bool} {raw : List Char} (flat : '\n' ∉ raw)
    (plain : inBlock = false → isPlain (.within .code) (raw ++ ['\n']) = true)
    (unclosed : hasInfix ['*', '/'] (commentOf inBlock raw) = false) :
    leavesLineOpen inBlock raw = blockGoesOn inBlock raw := by
  cases inBlock with
  | true =>
    have goes : blockGoesOn true raw = true := beq_iff_eq.2 (behind_block unclosed)
    rw [goes, leavesLineOpen, if_pos rfl, hasInfix_trim]
    exact congrArg (!·) unclosed
  | false =>
    have matched : Quoting.outside.Matches (.within .code) raw := .inl rfl
    have behind := behind_splitComment matched flat (plain rfl)
    have whole := splitComment_append .outside raw
    have kinds := startsComment_splitComment .outside raw
    rw [commentOf, if_neg (by decide)] at unclosed
    rw [leavesLineOpen, if_neg (by decide), blockGoesOn, lineStart, if_neg (by decide), behind]
    generalize (splitComment .outside raw).2 = comment at *
    rcases kinds with rfl | ⟨starts, -⟩
    · rfl
    · obtain ⟨d, cs, rfl, mark⟩ := exists_of_startsComment starts
      rw [List.cons_append, List.cons_append, State.behind_cons, List.head?_cons, State.next_code]
      rcases mark with rfl | rfl
      · have flat' : '\n' ∉ cs := fun mem => flat (by rw [← whole]; simp [mem])
        rw [if_pos ⟨rfl, rfl⟩, State.behind_cons, State.next_second, behind_lineComment flat', trim_comment (by decide)]
        rfl
      · rw [hasInfix_cons, hasInfix_cons, Bool.or_eq_false_iff, Bool.or_eq_false_iff] at unclosed
        rw [if_neg (by decide), if_pos ⟨rfl, rfl⟩, State.behind_cons, State.next_second, behind_block unclosed.2.2,
          leavesBlockOpen_trim, hasInfix_cons, hasInfix_cons, unclosed.1, unclosed.2.1, unclosed.2.2]
        rfl

/-- A mark that closes a comment is taken for the end of it. -/
theorem leavesLineOpen_of_closed {inBlock : Bool} {raw : List Char}
    (closed : hasInfix ['*', '/'] (commentOf inBlock raw) = true) : leavesLineOpen inBlock raw = false := by
  cases inBlock with
  | true =>
    rw [leavesLineOpen, if_pos rfl, hasInfix_trim]
    exact congrArg (!·) closed
  | false =>
    have closed' : hasInfix ['*', '/'] (trim (splitComment .outside raw).2) = true := (hasInfix_trim _).trans closed
    rw [leavesLineOpen, if_neg (by decide), leavesBlockOpen, closed', Bool.not_true, Bool.and_false]

/-- Both readings tell the same of a line unless the scanner takes a block comment to go on behind a mark that
closes one. -/
theorem leavesLineOpen_eq_iff {inBlock : Bool} {raw : List Char} (flat : '\n' ∉ raw)
    (plain : inBlock = false → isPlain (.within .code) (raw ++ ['\n']) = true) :
    leavesLineOpen inBlock raw = blockGoesOn inBlock raw ↔
      (blockGoesOn inBlock raw && hasInfix ['*', '/'] (commentOf inBlock raw)) = false := by
  cases closed : hasInfix ['*', '/'] (commentOf inBlock raw) with
  | true => rw [leavesLineOpen_of_closed closed, Bool.and_true, eq_comm]
  | false => simpa using leavesLineOpen_eq_of_unclosed flat plain closed

/-- A line of which both readings tell the same. -/
def isTracked (inBlock : Bool) (raw : List Char) : Bool :=
  (inBlock || isPlain (.within .code) (raw ++ ['\n'])) &&
    !(blockGoesOn inBlock raw && hasInfix ['*', '/'] (commentOf inBlock raw))

/-- Lines of which both readings tell the same, the first of which starts in a block comment or not. -/
def areTracked (inBlock : Bool) : List (List Char) → Bool
  | [] => true
  | raw :: rest => isTracked inBlock raw && areTracked (blockGoesOn inBlock raw) rest

theorem foldl_leavesLineOpen {inBlock : Bool} {raws : List (List Char)} (flat : ∀ raw ∈ raws, '\n' ∉ raw)
    (tracked : areTracked inBlock raws = true) :
    raws.foldl leavesLineOpen inBlock = raws.foldl blockGoesOn inBlock := by
  induction raws generalizing inBlock with
  | nil => rfl
  | cons raw raws ih =>
    obtain ⟨here, there⟩ := List.forall_mem_cons.1 flat
    rw [areTracked, Bool.and_eq_true, isTracked, Bool.and_eq_true] at tracked
    obtain ⟨⟨plain, goes⟩, tracked⟩ := tracked
    have same : leavesLineOpen inBlock raw = blockGoesOn inBlock raw := by
      refine (leavesLineOpen_eq_iff here fun outside => ?_).2 (by rwa [Bool.not_eq_true'] at goes)
      simpa [outside] using plain
    rw [List.foldl_cons, List.foldl_cons, same, ih there tracked]

/-! ## Lines and what stands before them -/

theorem exists_of_splitLines_cons {cs line next : List Char} {rest : List (List Char)}
    (lines : splitLines cs = line :: next :: rest) : ∃ ds, cs = line ++ '\n' :: ds ∧ splitLines ds = next :: rest := by
  induction cs generalizing line with
  | nil => cases lines
  | cons c cs ih =>
    rw [splitLines, splitWhere] at lines
    split at lines
    · rename_i feed
      obtain ⟨rfl, rest⟩ := List.cons.inj lines
      exact ⟨cs, by rw [beq_iff_eq.1 feed]; rfl, rest⟩
    · split at lines
      · cases lines
      · rename_i piece pieces further
        obtain ⟨rfl, rfl⟩ := List.cons.inj lines
        obtain ⟨ds, rfl, behind⟩ := ih further
        exact ⟨ds, rfl, behind⟩

theorem exists_of_splitLines {cs raw : List Char} {raws rest : List (List Char)}
    (lines : splitLines cs = raws ++ raw :: rest) : ∃ tail, cs = raws.flatMap (· ++ ['\n']) ++ tail := by
  induction raws generalizing cs with
  | nil => exact ⟨cs, rfl⟩
  | cons first raws ih =>
    obtain ⟨next, others, further⟩ : ∃ next others, raws ++ raw :: rest = next :: others := by
      cases raws with
      | nil => exact ⟨raw, rest, rfl⟩
      | cons next raws => exact ⟨next, raws ++ raw :: rest, rfl⟩
    rw [List.cons_append, further] at lines
    obtain ⟨ds, rfl, behind⟩ := exists_of_splitLines_cons lines
    obtain ⟨tail, rfl⟩ := ih (behind.trans further.symm)
    exact ⟨tail, by simp⟩

/-- A line that starts in a block comment is one comment without code, whatever stands on it, if both readings tell
the same of all lines before it. Its tokens are not spaced, and it does not matter to the indentation. -/
theorem block_line_kept {text : String} {raws rest : List (List Char)} {raw : List Char}
    (lines : splitLines text.toList = raws ++ raw :: rest) (tracked : areTracked false raws = true)
    (inside : Lexical.classAt text (length8 (raws.flatMap (· ++ ['\n']))) = .block) :
    splitText text.toList = linesFrom false raws ++ ⟨[], trim raw⟩ :: linesFrom (!hasInfix ['*', '/'] (trim raw)) rest ∧
      (⟨[], trim raw⟩ : Line).respaced = ⟨[], trim raw⟩ ∧ ∀ n : Nesting, n.after [] = n := by
  obtain ⟨tail, whole⟩ := exists_of_splitLines lines
  have flat : ∀ raw ∈ raws, '\n' ∉ raw := by
    intro raw mem feed
    have inLines : raw ∈ splitLines text.toList := by rw [lines]; exact List.mem_append_left _ mem
    exact absurd (mem_of_mem_splitWhere inLines _ feed).2 (by decide)
  have goes : raws.foldl leavesLineOpen false = true := by
    rw [foldl_leavesLineOpen flat tracked]
    rw [Lexical.classAt_lineStart whole] at inside
    by_contra code
    rw [Bool.not_eq_true] at code
    rw [code] at inside
    cases inside
  refine ⟨?_, ?_, fun n => rfl⟩
  · rw [splitText, lines, linesFrom_append, goes]
    rfl
  · rw [Line.respaced, respaceContent_nil]

theorem block_line_kept_literal :
    (areTracked false ["s = \"//\"; /* a".toList] = true ∧
        Lexical.classAt "s = \"//\"; /* a\nx; y;\n*/" 15 = .block) ∧
      splitText "s = \"//\"; /* a\nx; y;\n*/".toList =
        [⟨"s = \"//\";".toList, "/* a".toList⟩, ⟨[], "x; y;".toList⟩, ⟨[], "*/".toList⟩] := by
  have lines : splitLines "s = \"//\"; /* a\nx; y;\n*/".toList =
      ["s = \"//\"; /* a".toList] ++ "x; y;".toList :: ["*/".toList] := by decide +kernel
  have tracked : areTracked false ["s = \"//\"; /* a".toList] = true := by decide +kernel
  have inside : Lexical.classAt "s = \"//\"; /* a\nx; y;\n*/" 15 = .block := by decide +kernel
  refine ⟨⟨tracked, inside⟩, ?_⟩
  rw [(block_line_kept lines tracked inside).1]
  decide +kernel

/-- Behind a comment that starts where another one ends, the next line is taken for code. -/
theorem block_line_broken : Lexical.classAt "/* a */ /* b\nx; y;\n*/" 13 = .block ∧
    splitText "/* a */ /* b\nx; y;\n*/".toList =
      [⟨[], "/* a */ /* b".toList⟩, ⟨"x;".toList, []⟩, ⟨"y;".toList, []⟩, ⟨"*/".toList, []⟩] := by
  decide +kernel

end ShaderAnalysis.Format
