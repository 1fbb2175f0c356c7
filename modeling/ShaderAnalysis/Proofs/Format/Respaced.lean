import ShaderAnalysis.Proofs.Format.Content
import ShaderAnalysis.Proofs.Format.Token

/-!
# Contents with spaced tokens

Spacing the tokens of clear code makes no comment of it and closes the same literals
(`isContentOf_respaceContent`). A token is a literal, has no character that matters to literals and comments, or
is an operator; a slash that ends a token is a division, and a space stands between a division and an operator
that starts with a slash or a star (`startsComment_respaceFrom`).
-/

namespace ShaderAnalysis.Format

open Text

/-! ## Texts of tokens -/

/-- Whether literals or comments are made with `c`. -/
def isMark (c : Char) : Bool :=
  c == '"' || c == '/' || c == '*'

/-- A class of characters without the marks. -/
theorem isMark_of_class {p : Char → Bool} (none : ['"', '/', '*'].all (!p ·) = true) {c : Char} (h : p c = true) :
    isMark c = false := by
  simp only [List.all_cons, List.all_nil, Bool.and_true, Bool.and_eq_true, Bool.not_eq_true'] at none
  obtain ⟨quote, slash, star⟩ := none
  simp only [isMark, Bool.or_eq_false_iff, beq_eq_false_iff_ne]
  refine ⟨⟨?_, ?_⟩, ?_⟩ <;> rintro rfl
  · exact absurd (h.symm.trans quote) (by decide)
  · exact absurd (h.symm.trans slash) (by decide)
  · exact absurd (h.symm.trans star) (by decide)

theorem quote_not_mem {cs : List Char} (plain : ∀ c ∈ cs, isMark c = false) : '"' ∉ cs :=
  fun mem => absurd (plain _ mem) (by decide)

/-- A literal that ends before the code does is closed. -/
theorem literalLength_spec (cs : List Char) : cs.drop (literalLength cs) = [] ∨
    Quoting.inside.after (cs.take (literalLength cs)) = .outside ∧
      (cs.take (literalLength cs)).getLast? = some '"' := by
  fun_induction literalLength cs with
  | case1 => exact .inl rfl
  | case2 => exact .inl rfl
  | case3 c cs ih =>
    refine ih.imp_right ?_
    rintro ⟨closed, last⟩
    refine ⟨closed, ?_⟩
    simp [List.getLast?_cons, last]
  | case4 cs => exact .inr ⟨rfl, rfl⟩
  | case5 c cs escape escaped quote ih =>
    have other := ne_backslash escape escaped
    refine ih.imp_right ?_
    rintro ⟨closed, last⟩
    constructor
    · rw [List.take_succ_cons, Quoting.after_cons]
      rwa [Quoting.next, if_neg other, if_neg quote]
    · simp [List.getLast?_cons, last]

/-- A word has no marks. -/
theorem isMark_of_mem_word {c : Char} {cs : List Char} {more : Nat} (shape : tokenShape c cs = (.word, more)) :
    ∀ d ∈ c :: cs.take more, isMark d = false :=
  fun d mem => isMark_of_class (by decide) (isInWord_of_mem_word shape d mem)

/-- What the text of a token means to literals and comments: literals are closed behind it unless it is the last
one, a slash that ends it is all of it, and with a slash or a star it starts an operator of this character and
at most an equals sign. -/
structure IsTokenText (kind : TokenKind) (text rest : List Char) : Prop where
  closed : rest = [] ∨ Quoting.outside.after text = .outside
  division : rest ≠ [] → text.getLast? = some '/' → kind = .operator ∧ text = ['/']
  product : ∀ c ∈ text.head?, c = '/' ∨ c = '*' → kind = .operator ∧ (text = [c] ∨ text = [c, '='])

theorem isTokenText_of_tokenShape {c : Char} {cs : List Char} {kind : TokenKind} {more : Nat}
    (shape : tokenShape c cs = (kind, more)) : IsTokenText kind (c :: cs.take more) (cs.drop more) := by
  cases kind with
  | word =>
    have plain := isMark_of_mem_word shape
    refine ⟨.inr (Quoting.after_outside (quote_not_mem plain)), fun _ last => ?_, fun d mem mark => ?_⟩
    · exact absurd (plain _ (List.mem_of_getLast? last)) (by decide)
    · have := plain d (List.mem_of_head? mem)
      rcases mark with rfl | rfl <;> exact absurd this (by decide)
  | text =>
    obtain ⟨rfl, rfl⟩ := quote_of_tokenShape shape
    refine ⟨(literalLength_spec cs).imp id fun ⟨closed, _⟩ => closed, fun more last => ?_, fun d mem mark => ?_⟩
    · have last' := ((literalLength_spec cs).resolve_left more).2
      simp [List.getLast?_cons, last'] at last
    · cases mem
      rcases mark with mark | mark <;> exact absurd mark (by decide)
  | operator =>
    have operator := isOperator_of_tokenShape shape
    rcases operator.text with single | ⟨op, listed, equal⟩
    · rw [single]
      refine ⟨.inr (Quoting.next_outside operator.quote), fun _ last => ?_, fun d mem mark => ?_⟩
      · cases last
        exact ⟨rfl, rfl⟩
      · cases mem
        exact ⟨rfl, .inl rfl⟩
    · rw [equal]
      have facts : ∀ op ∈ longOperators, '"' ∉ op.toList ∧ op.toList.getLast? ≠ some '/' ∧
          (op.toList.head? = some '/' → op.toList = ['/', '=']) ∧
          (op.toList.head? = some '*' → op.toList = ['*', '=']) := by decide
      obtain ⟨quote, last, slash, star⟩ := facts op listed
      refine ⟨.inr (Quoting.after_outside quote), fun _ slash => absurd slash last, fun d mem mark => ?_⟩
      rcases mark with rfl | rfl
      · exact ⟨rfl, .inr (slash mem)⟩
      · exact ⟨rfl, .inr (star mem)⟩

/-! ## Spaced tokens -/

/-- A space stands between a division and an operator that starts with a slash or a star. -/
theorem isSpaced_division {c : Char} {text : List Char} (mark : c = '/' ∨ c = '*')
    (operator : text = [c] ∨ text = [c, '=']) (spaced unary spaced' : Bool) :
    isSpaced ⟨['/'], .operator, spaced⟩ unary ⟨text, .operator, spaced'⟩ = true := by
  rcases mark with rfl | rfl <;> rcases operator with rfl | rfl <;> revert spaced unary spaced' <;> decide

/-- No comment starts with a division. -/
theorem startsComment_respaceFrom (spaced unary spaced' : Bool) (code : List Char) :
    startsComment ('/' :: respaceFrom (some (⟨['/'], .operator, spaced⟩, unary)) (tokensFrom spaced' code)) =
      false := by
  fun_induction tokensFrom spaced' code with
  | case1 => rfl
  | case2 _ c cs _ ih => exact ih
  | case3 spaced' c cs _ kind more shape ih =>
    rw [startsComment_cons, respaceFrom]
    by_cases mark : c = '/' ∨ c = '*'
    · obtain ⟨rfl, operator⟩ := (isTokenText_of_tokenShape shape).product c rfl mark
      simp [isSpaced_division mark operator]
    · obtain ⟨slash, star⟩ := not_or.1 mark
      simp only [Option.any_some]
      split <;> simp [slash, star]

theorem after_respaceFrom (prev : Option (Token × Bool)) (spaced : Bool) (code : List Char) :
    Quoting.outside.after (respaceFrom prev (tokensFrom spaced code)) = Quoting.outside.after code := by
  fun_induction tokensFrom spaced code generalizing prev with
  | case1 => rfl
  | case2 _ c cs blank ih =>
    rw [Quoting.after_cons, Quoting.next_of_isBlank (isBlank_of_isAsciiBlank blank), ih]
  | case3 spaced c cs _ kind more shape ih =>
    have gap (b : Bool) : Quoting.outside.after (if b then [' '] else []) = .outside := by cases b <;> rfl
    have whole : Quoting.outside.after (c :: cs) =
        (Quoting.outside.after (c :: cs.take more)).after (cs.drop more) := by
      rw [← Quoting.after_append, List.cons_append, List.take_append_drop]
    rw [whole, respaceFrom, Quoting.after_append, Quoting.after_append, gap]
    rcases (isTokenText_of_tokenShape shape).closed with last | closed
    · rw [last, tokensFrom]
      rfl
    · rw [closed, ih]

theorem isClear_respaceFrom (prev : Option (Token × Bool)) {spaced : Bool} {code : List Char}
    (clear : IsClear .outside code) : IsClear .outside (respaceFrom prev (tokensFrom spaced code)) := by
  fun_induction tokensFrom spaced code generalizing prev with
  | case1 => exact clear
  | case2 _ c cs blank ih =>
    refine ih prev ?_
    rw [← Quoting.next_of_isBlank (isBlank_of_isAsciiBlank blank)]
    exact (isClear_cons.1 clear).2
  | case3 spaced c cs _ kind more shape ih =>
    have token := isTokenText_of_tokenShape shape
    rw [← List.take_append_drop more cs, ← List.cons_append] at clear
    rw [respaceFrom, List.append_assoc]
    generalize isUnary _ _ _ = unary
    have unspaced : IsClear .outside
        (c :: cs.take more ++ respaceFrom (some (⟨c :: cs.take more, kind, spaced⟩, unary))
          (tokensFrom false (cs.drop more))) := by
      by_cases last : cs.drop more = []
      · rw [last, tokensFrom, respaceFrom, List.append_nil]
        exact clear.left
      · have closed := token.closed.resolve_left last
        have rest := ih (some (⟨c :: cs.take more, kind, spaced⟩, unary)) (closed ▸ clear.right)
        refine clear.left.append (closed.symm ▸ rest) fun slash => ?_
        obtain ⟨rfl, division⟩ := token.division last slash
        rw [division]
        exact startsComment_respaceFrom spaced unary false _
    split
    · exact isClear_cons.2 ⟨fun _ => by simp [startsComment_cons], unspaced⟩
    · exact unspaced

theorem getLast?_respaceFrom (prev : Option (Token × Bool)) {spaced : Bool} {code : List Char}
    (last : ∀ c ∈ code.getLast?, isBlank c = false) :
    (respaceFrom prev (tokensFrom spaced code)).getLast? = code.getLast? := by
  fun_induction tokensFrom spaced code generalizing prev with
  | case1 => rfl
  | case2 _ c cs blank ih =>
    have nonempty : cs ≠ [] := by
      rintro rfl
      exact absurd ((isBlank_of_isAsciiBlank blank).symm.trans (last c rfl)) (by decide)
    have same : (c :: cs).getLast? = cs.getLast? := List.getLast?_append_of_ne_nil [c] nonempty
    rw [same] at last ⊢
    exact ih prev last
  | case3 spaced c cs _ kind more shape ih =>
    have whole : c :: cs = c :: cs.take more ++ cs.drop more := by
      rw [List.cons_append, List.take_append_drop]
    rw [whole] at last ⊢
    rw [respaceFrom]
    generalize isUnary _ _ _ = unary
    by_cases final : cs.drop more = []
    · rw [final, tokensFrom, respaceFrom, List.append_nil, List.append_nil]
      exact List.getLast?_append_of_ne_nil _ (List.cons_ne_nil _ _)
    · rw [List.getLast?_append_of_ne_nil _ final] at last ⊢
      have rest := ih (some (⟨c :: cs.take more, kind, spaced⟩, unary)) last
      rw [List.getLast?_append_of_ne_nil, rest]
      intro empty
      rw [empty] at rest
      exact final (List.getLast?_eq_none_iff.1 rest.symm)

theorem mem_respaceFrom {prev : Option (Token × Bool)} {spaced : Bool} {code : List Char} {d : Char}
    (mem : d ∈ respaceFrom prev (tokensFrom spaced code)) : d ∈ code ∨ d = ' ' := by
  fun_induction tokensFrom spaced code generalizing prev with
  | case1 => exact .inl mem
  | case2 _ c cs _ ih => exact (ih mem).imp_left (List.mem_cons_of_mem c)
  | case3 spaced c cs _ kind more shape ih =>
    rw [respaceFrom, List.mem_append, List.mem_append] at mem
    rw [← List.take_append_drop more cs, ← List.cons_append, List.mem_append]
    rcases mem with (gap | here) | rest
    · split at gap
      · exact .inr (List.mem_singleton.1 gap)
      · cases gap
    · exact .inl (.inl here)
    · exact (ih rest).imp_left .inr

theorem isContentOf_respace {code : List Char} (trimmed : IsTrimmed code) (clear : IsClear .outside code) :
    IsContentOf code (respace code) := by
  refine ⟨⟨fun c mem => ?_, ?_⟩, isClear_respaceFrom none clear, ?_, fun c => mem_respaceFrom⟩
  · cases code with
    | nil => simp [respace, tokens, tokensFrom, respaceFrom] at mem
    | cons d ds =>
      have first := trimmed.first d rfl
      have ascii : ¬isAsciiBlank d = true := fun h => absurd ((isBlank_of_isAsciiBlank h).symm.trans first) (by decide)
      rw [respace, tokens, tokensFrom, if_neg ascii, respaceFrom] at mem
      cases mem
      exact first
  · rw [respace, tokens, getLast?_respaceFrom none trimmed.last]
    exact trimmed.last
  · rw [respace, tokens, after_respaceFrom]
    exact id

theorem isContentOf_respaceContent {content : List Char} (trimmed : IsTrimmed content)
    (clear : IsClear .outside content) : IsContentOf content (respaceContent content) := by
  unfold respaceContent
  split
  · exact isContentOf_collapse trimmed clear
  · exact isContentOf_respace trimmed clear

end ShaderAnalysis.Format
