import ShaderAnalysis.Proofs.Format.Clash

/-!
# Tokens that survive spacing

Two tokens merge if the first one goes on with the beginning of the second: no space is put between them then
(`isSpaced_of_merges`), and as a token is read as long as it goes on (`not_goesFurther_of_tokenShape`), the first
one is read as another token. So the tokens of spaced code are those of the code exactly if no two of these merge
(`tokens_respace_iff`).
-/

namespace ShaderAnalysis.Format

open Text

/-! ## Where a token has to end -/

theorem startsNumber_append {c : Char} {cs : List Char} (number : startsNumber (c :: cs) = true) (r : List Char) :
    startsNumber (c :: (cs ++ r)) = true := by
  rw [startsNumber_cons] at number ⊢
  cases cs with
  | nil => simp_all
  | cons d ds => exact number

/-- A number is read as long as it goes on. -/
theorem head?_drop_numberLength (hexadecimal : Bool) (last : Char) (cs : List Char) :
    (cs.drop (numberLength hexadecimal last cs)).head? ≠ some '.' := by
  fun_induction numberLength hexadecimal last cs with
  | case1 => simp
  | case2 last c cs _ ih => exact ih
  | case3 last c cs _ _ ih => exact ih
  | case4 last c cs part =>
    intro dot
    obtain rfl : c = '.' := Option.some.inj dot
    exact part (by decide)

/-- Whether a token of this kind and text goes on with `x`. -/
def goesFurther (kind : TokenKind) (text : List Char) (x : Char) : Bool :=
  match kind with
  | .operator => goesOn text x || text == ['.'] && x.isDigit
  | .word => startsNumber text && x == '.'
  | .text => false

/-- A token is read as long as it goes on. -/
theorem not_goesFurther_of_tokenShape {c : Char} {cs : List Char} {kind : TokenKind} {more : Nat}
    (shape : tokenShape c cs = (kind, more)) {x : Char} (next : (cs.drop more).head? = some x) :
    goesFurther kind (c :: cs.take more) x = false := by
  rw [← Bool.not_eq_true]
  intro goes
  cases kind with
  | text => cases goes
  | word =>
    rw [goesFurther, Bool.and_eq_true, beq_iff_eq] at goes
    obtain ⟨number, rfl⟩ := goes
    have number' : startsNumber (c :: cs) = true := by
      simpa using startsNumber_append number (cs.drop more)
    unfold tokenShape at shape
    split at shape
    · cases shape
    · cases shape
      exact head?_drop_numberLength _ _ _ next
  | operator =>
    have operator := isOperator_of_tokenShape shape
    rcases Bool.or_eq_true_iff.1 goes with goes | number
    · exact absurd (goes.symm.trans (operator.goesOn_eq_false x next)) (by decide)
    · rw [Bool.and_eq_true, beq_iff_eq] at number
      obtain ⟨dot, digit⟩ := number
      obtain ⟨rfl, alone⟩ := List.cons.inj dot
      refine operator.number ?_
      rw [← List.take_append_drop more cs, alone, List.nil_append, startsNumber_cons, next]
      simpa using digit

/-! ## Tokens that merge -/

theorem isSpaced_of_merges {t next : Token} (merges : t.merges next = true) (unary : Bool) :
    isSpaced t unary next = false := by
  have closing (is : next.isAny [",", ";", ")", "]", ".", "::"] = true) : isSpaced t unary next = false := by
    rw [isSpaced, if_pos is]
  have opening (is : t.isAny ["(", "[", ".", "!", "~", "#", "::"] = true) : isSpaced t unary next = false := by
    unfold isSpaced
    split
    · rfl
    split
    · rfl
    · rfl
  have one {t : Token} {op : String} (is : t.is op = true) {operators : List String} (mem : op ∈ operators) :
      t.isAny operators = true :=
    List.any_eq_true.2 ⟨op, mem, is⟩
  simp only [Token.merges, Bool.or_eq_true, Bool.and_eq_true] at merges
  obtain ((⟨-, scope⟩ | ⟨negation, -⟩) | ⟨dot, -⟩) | ⟨-, dot⟩ := merges
  · exact closing (one scope (by decide))
  · exact opening (one negation (by decide))
  · exact opening (one dot (by decide))
  · exact closing (one dot (by decide))

theorem goesFurther_of_merges {t next : Token} (merges : t.merges next = true) {d : Char}
    (first : next.text.head? = some d) : goesFurther t.kind t.text d = true := by
  simp only [Token.merges, Bool.or_eq_true, Bool.and_eq_true, Token.is_iff] at merges
  obtain ((⟨⟨kind, text⟩, -, scope⟩ | ⟨⟨kind, text⟩, equals⟩) | ⟨⟨kind, text⟩, digit⟩) | ⟨number, -, dot⟩ := merges
  · rw [scope] at first
    cases first
    rw [kind, text]
    decide
  · obtain ⟨-, op, mem, equal⟩ := Token.isAny_iff.1 equals
    have starts : ∀ op ∈ ["=", "=="], op.toList.head? = some '=' := by decide
    rw [equal, starts op mem] at first
    cases first
    rw [kind, text]
    decide
  · rw [first] at digit
    rw [kind, text, goesFurther, Bool.or_eq_true, Bool.and_eq_true]
    exact .inr ⟨by decide, digit⟩
  · rw [dot] at first
    cases first
    rw [Token.isNumber, Bool.and_eq_true, beq_iff_eq] at number
    rw [number.1]
    exact Bool.and_eq_true_iff.2 ⟨number.2, rfl⟩

/-! ## The tokens of spaced code -/

/-- The text and the kind of a token. -/
def Token.shape (t : Token) : List Char × TokenKind :=
  (t.text, t.kind)

theorem shapes_respacedTokens (prev : Option (Token × Bool)) (ts : List Token) :
    (respacedTokens prev ts).map Token.shape = ts.map Token.shape := by
  induction ts generalizing prev with
  | nil => rfl
  | cons t ts ih => rw [respacedTokens, List.map_cons, List.map_cons, ih, Token.shape, Token.shape]

/-- A token that is read again goes on with nothing that follows it. -/
theorem goesFurther_eq_false_of_reread {c : Char} {text r : List Char} {kind : TokenKind} {spaced : Bool}
    (blank : ¬isAsciiBlank c = true)
    (same : (tokensFrom spaced (c :: text ++ r)).head?.map Token.shape = some (c :: text, kind)) {x : Char}
    (next : r.head? = some x) : goesFurther kind (c :: text) x = false := by
  rw [List.cons_append, tokensFrom, if_neg blank] at same
  obtain ⟨kind', more, shape⟩ : ∃ kind' more, tokenShape c (text ++ r) = (kind', more) := ⟨_, _, rfl⟩
  rw [shape] at same
  obtain ⟨texts, rfl⟩ := Prod.mk.inj (Option.some.inj same)
  have whole : (text ++ r).take more = text := (List.cons.inj texts).2
  have length : more = text.length := by
    have := congrArg List.length whole
    rwa [List.length_take_of_le (le_length_of_tokenShape shape)] at this
  have rest : (text ++ r).drop more = r := by rw [length, List.drop_left]
  have ends := not_goesFurther_of_tokenShape shape (x := x) (by rw [rest, next])
  rwa [whole] at ends

theorem shapes_respaceFrom_iff (prev : Option (Token × Bool)) (spaced : Bool) (code : List Char) :
    (tokensFrom false (respaceFrom prev (tokensFrom spaced code))).map Token.shape =
        (tokensFrom spaced code).map Token.shape ↔ AreUnmerged (tokensFrom spaced code) := by
  refine ⟨fun same => ?_, fun unmerged => by rw [tokensFrom_respaceFrom prev unmerged, shapes_respacedTokens]⟩
  fun_induction tokensFrom spaced code generalizing prev with
  | case1 => exact List.isChain_nil
  | case2 _ c cs _ ih => exact ih prev same
  | case3 spaced c cs blank kind more shape ih =>
    have operator := @operator_of_isUnary (prev.map (·.1)) ⟨c :: cs.take more, kind, spaced⟩
      ((tokensFrom false (cs.drop more)).head?.any (·.spaced))
    rw [respaceFrom_cons, List.append_assoc, tokensFrom_gap] at same
    generalize gapBefore prev _ = gap at same
    generalize isUnary _ _ _ = unary at same operator
    have here : ∀ next ∈ (tokensFrom false (cs.drop more)).head?,
        Token.merges ⟨c :: cs.take more, kind, spaced⟩ next = false := by
      intro next mem
      by_contra merges
      rw [Bool.not_eq_false] at merges
      obtain ⟨d, ds, more', -, text, -⟩ := exists_of_mem_head?_tokensFrom mem
      have first : next.text.head? = some d := by rw [text]; rfl
      have follows : (respaceFrom (some (⟨c :: cs.take more, kind, spaced⟩, unary))
          (tokensFrom false (cs.drop more))).head? = some d := by
        obtain ⟨ts, list⟩ : ∃ ts, tokensFrom false (cs.drop more) = next :: ts := ⟨_, List.eq_cons_of_mem_head? mem⟩
        rw [list, respaceFrom_cons, gapBefore_some, isSpaced_of_merges merges, text]
        rfl
      have ends := goesFurther_eq_false_of_reread blank (by rw [← List.head?_map, same]; rfl) follows
      exact absurd (ends.symm.trans (goesFurther_of_merges merges first)) (by decide)
    refine List.isChain_cons.2 ⟨here, ih (some (⟨c :: cs.take more, kind, spaced⟩, unary)) ?_⟩
    rw [tokensFrom_append shape blank (stops_respaceFrom shape operator here)] at same
    exact (List.cons.inj same).2

/-- Spacing keeps the texts and the kinds of tokens exactly if no two tokens merge that follow one another. -/
theorem tokens_respace_iff (code : List Char) :
    (tokens (respace code)).map Token.shape = (tokens code).map Token.shape ↔ AreUnmerged (tokens code) :=
  shapes_respaceFrom_iff none false code

/-- No space is put in front of a scope, also behind a colon. -/
theorem tokens_respace_scope : ¬(tokens (respace "c ? 1 : ::k".toList)).map Token.shape =
    (tokens "c ? 1 : ::k".toList).map Token.shape := by
  decide +kernel

end ShaderAnalysis.Format
