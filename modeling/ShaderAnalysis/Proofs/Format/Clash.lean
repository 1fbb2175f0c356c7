import Mathlib.Data.List.Chain
import ShaderAnalysis.Proofs.Format.Respaced

/-!
# Reading spaced tokens again

Spacing takes blanks away between tokens, so that a token can go on with the next one the next time: the two
merge. Where no two tokens merge, the same tokens are read from spaced code, each with the space in front of it
that was put there (`tokensFrom_respaceFrom`). Tokens clash if they merge or will be spaced in another way; where
none clash, spacing code again changes nothing (`respace_respace`).
-/

namespace ShaderAnalysis.Format

open Text

/-! ## Clashes -/

namespace Token

theorem is_iff {t : Token} {operator : String} :
    t.is operator = true ↔ t.kind = .operator ∧ t.text = operator.toList := by
  rw [is, Bool.and_eq_true, beq_iff_eq, beq_iff_eq]

theorem isAny_iff {t : Token} {operators : List String} :
    t.isAny operators = true ↔ t.kind = .operator ∧ ∃ op ∈ operators, t.text = op.toList := by
  simp only [isAny, List.any_eq_true, is_iff]
  constructor
  · rintro ⟨op, mem, kind, text⟩
    exact ⟨kind, op, mem, text⟩
  · rintro ⟨kind, op, mem, text⟩
    exact ⟨op, mem, kind, text⟩

theorem isOperand_iff {t : Token} (operator : t.kind = .operator) :
    t.isOperand = true ↔ t.isAny [")", "]"] = true := by
  simp [isOperand, operator]

/-- A token is at most one operator. -/
theorem isAny_eq_false {t : Token} {operators : List String} (h : t.isAny operators = true) {others : List String}
    (disjoint : operators.all (fun op => !others.contains op) = true) : t.isAny others = false := by
  obtain ⟨-, op, mem, text⟩ := isAny_iff.1 h
  rw [← Bool.not_eq_true, isAny_iff]
  rintro ⟨-, other, mem', text'⟩
  have same : op = other := String.toList_inj.1 (text.symm.trans text')
  have := List.all_eq_true.1 disjoint op mem
  simp [same, mem'] at this

/-- An operator other than a closing parenthesis or bracket is no operand. -/
theorem isOperand_eq_false {t : Token} {operators : List String} (h : t.isAny operators = true)
    (disjoint : operators.all (fun op => !List.contains [")", "]"] op) = true) : t.isOperand = false := by
  rw [← Bool.not_eq_true, isOperand_iff (isAny_iff.1 h).1, Bool.not_eq_true]
  exact isAny_eq_false h disjoint

theorem isAny_mono {t : Token} {operators others : List String} (h : t.isAny operators = true)
    (subset : operators ⊆ others) : t.isAny others = true := by
  obtain ⟨kind, op, mem, text⟩ := isAny_iff.1 h
  exact isAny_iff.2 ⟨kind, op, subset mem, text⟩

/-- Whether the token is a number. -/
def isNumber (t : Token) : Bool :=
  t.kind == .word && startsNumber t.text

/-- Whether `t` goes on with the beginning of `next`, in front of which no space is put. -/
def merges (t next : Token) : Bool :=
  (t.is ":" && next.is "::") || (t.is "!" && next.isAny ["=", "=="]) ||
    (t.is "." && next.text.head?.any Char.isDigit) || (t.isNumber && next.is ".")

/-- Whether `t` and `next` can be put so that they are read or spaced in another way the next time. -/
def clashes (t next : Token) : Bool :=
  t.merges next || (t.isAny ["+", "-"] && next.isAny keptOperators && !next.spaced) ||
    (t.isAny ["(", "[", ".", "!", "~", "#", "::"] && next.is "\x7b")

theorem merges_of_not_clashes {t next : Token} (h : t.clashes next = false) : t.merges next = false := by
  simp only [clashes, Bool.or_eq_false_iff] at h
  exact h.1.1

end Token

/-- A class of characters without any of a list. -/
theorem contains_eq_false_of_class {p : Char → Bool} {cs : List Char} (none : cs.all (!p ·) = true) {c : Char}
    (h : p c = true) : cs.contains c = false := by
  rw [← Bool.not_eq_true, List.contains_iff_mem]
  intro mem
  have := List.all_eq_true.1 none c mem
  rw [h] at this
  cases this

/-- The characters that operators go on with. -/
def tails : List Char := ['=', '&', '|', '+', '-', ':', '<', '>']

theorem contains_tails_of_goesOn {text : List Char} {c : Char} (h : goesOn text c = true) :
    tails.contains c = true := by
  have all : ∀ op ∈ longOperators, op.toList.getLast?.all tails.contains = true := by decide
  obtain ⟨op, listed, -, last⟩ := exists_of_goesOn h
  simpa [last] using all op listed

theorem isWordPart_of_operator {c : Char} {cs : List Char} {more : Nat}
    (shape : tokenShape c cs = (.operator, more)) : isWordPart c = false := by
  have operator := isOperator_of_tokenShape shape
  have number := operator.number
  have word := operator.word
  rw [startsNumber_cons] at number
  simp only [Bool.or_eq_true, not_or, Bool.not_eq_true] at number word
  have start := word.1
  simp only [isIdentStart, Bool.or_eq_false_iff] at start
  simp [isWordPart, isIdentChar, Char.isAlphanum, start, word.2, number.1]

/-- No operator goes on with an operand. -/
theorem contains_tails_of_operand {c : Char} {cs : List Char} {kind : TokenKind} {more : Nat}
    (shape : tokenShape c cs = (kind, more)) (operand : kind ≠ .operator) : tails.contains c = false := by
  cases kind with
  | text =>
    rw [(quote_of_tokenShape shape).1]
    decide
  | operator => exact absurd rfl operand
  | word =>
    rcases isWordPart_of_word shape with part | rfl
    · exact contains_eq_false_of_class (p := isWordPart) (by decide) part
    · decide

/-- The first token of code and the character that it starts with. -/
theorem exists_of_mem_head?_tokensFrom {spaced : Bool} {code : List Char} {next : Token}
    (h : next ∈ (tokensFrom spaced code).head?) : ∃ d ds more, tokenShape d ds = (next.kind, more) ∧
      next.text = d :: ds.take more ∧ (next.spaced = false → spaced = false ∧ code.head? = some d) := by
  fun_induction tokensFrom spaced code with
  | case1 => cases h
  | case2 spaced c cs _ ih =>
    obtain ⟨d, ds, more, shape, text, first⟩ := ih h
    exact ⟨d, ds, more, shape, text, fun unspaced => absurd (first unspaced).1 (by decide)⟩
  | case3 spaced c cs _ kind more shape _ =>
    cases h
    exact ⟨c, cs, more, shape, rfl, fun unspaced => ⟨unspaced, rfl⟩⟩

/-- Why no space stands between two tokens. -/
theorem not_isSpaced {t next : Token} {unary : Bool} (h : isSpaced t unary next = false) :
    next.isAny [",", ";", ")", "]", ".", "::"] = true ∨
      (next.isAny ["++", "--"] = true ∧ t.isOperand = true) ∨
      t.isAny ["(", "[", ".", "!", "~", "#", "::"] = true ∨
      ((unary = true ∨ t.isAny ["++", "--"] = true) ∧ (next.isOperand = true ∨ next.is "(" = true)) ∨
      (next.spaced = false ∧
        (t.kind = .word → next.kind ≠ .word ∧ next.isAny arithmeticOperators = false)) := by
  unfold isSpaced at h
  rcases ite_eq_iff.1 h with ⟨closing, -⟩ | ⟨-, h⟩
  · exact .inl closing
  rcases ite_eq_iff.1 h with ⟨increment, -⟩ | ⟨-, h⟩
  · exact .inr (.inl (Bool.and_eq_true_iff.1 increment))
  rcases ite_eq_iff.1 h with ⟨opening, -⟩ | ⟨-, h⟩
  · exact .inr (.inr (.inl opening))
  rcases ite_eq_iff.1 h with ⟨prefixed, h⟩ | ⟨-, h⟩
  · refine .inr (.inr (.inr (.inl ⟨Bool.or_eq_true_iff.1 prefixed, ?_⟩)))
    rwa [Bool.not_eq_false', Bool.or_eq_true] at h
  refine .inr (.inr (.inr (.inr ?_)))
  rcases ite_eq_iff.1 h with ⟨kept, h⟩ | ⟨-, h⟩
  · refine ⟨h, fun word => ?_⟩
    have next : next.isAny keptOperators = true := by
      refine (Bool.or_eq_true_iff.1 kept).resolve_right fun operator => ?_
      rw [(Token.isAny_iff.1 operator).1] at word
      cases word
    exact ⟨by rw [(Token.isAny_iff.1 next).1]; decide, Token.isAny_eq_false next (by decide)⟩
  rcases ite_eq_iff.1 h with ⟨-, spaced⟩ | ⟨binary, h⟩
  · cases spaced
  simp only [Bool.or_eq_true, not_or, Bool.not_eq_true] at binary
  rcases ite_eq_iff.1 h with ⟨-, spaced⟩ | ⟨-, h⟩
  · cases spaced
  rcases ite_eq_iff.1 h with ⟨paren, h⟩ | ⟨-, h⟩
  · refine ⟨(Bool.or_eq_false_iff.1 h).2, fun word => ⟨?_, binary.1.2⟩⟩
    rw [(Token.is_iff.1 paren).1]
    decide
  rcases ite_eq_iff.1 h with ⟨-, spaced⟩ | ⟨other, h⟩
  · cases spaced
  · refine ⟨h, fun word => ⟨fun word' => other ?_, binary.1.2⟩⟩
    simp [word, word']

section

variable {c d : Char} {cs ds : List Char} {t next : Token} {more more' : Nat}

/-- Two tokens between which no space stands, as they are read: the second one starts with `d`. -/
structure AreJoined (c : Char) (cs : List Char) (more : Nat) (t : Token) (unary : Bool) (d : Char) (ds : List Char)
    (more' : Nat) (next : Token) : Prop where
  shape : tokenShape c cs = (t.kind, more)
  text : t.text = c :: cs.take more
  operator : unary = true → t.kind = .operator
  shape' : tokenShape d ds = (next.kind, more')
  text' : next.text = d :: ds.take more'
  first : next.spaced = false → (cs.drop more).head? = some d
  unspaced : isSpaced t unary next = false
  apart : t.merges next = false

variable {unary : Bool}

theorem AreJoined.operator_text (h : AreJoined c cs more t unary d ds more' next) (operator : next.kind = .operator) :
    next.text = [d] ∨ ∃ op ∈ longOperators, next.text = op.toList := by
  rw [h.text']
  exact (isOperator_of_tokenShape (operator ▸ h.shape')).text

/-- No word stands behind a word, and no sign. -/
theorem AreJoined.not_word (h : AreJoined c cs more t unary d ds more' next) (word : t.kind = .word) :
    next.kind ≠ .word ∧ next.isAny arithmeticOperators = false := by
  have operator {operators : List String} (is : next.isAny operators = true) : next.kind ≠ .word := by
    rw [(Token.isAny_iff.1 is).1]
    decide
  have other {operators : List String} : ¬t.isAny operators = true := by
    intro is
    rw [(Token.isAny_iff.1 is).1] at word
    cases word
  rcases not_isSpaced h.unspaced with closing | ⟨increment, -⟩ | opening | ⟨prefixed, -⟩ | ⟨-, kept⟩
  · exact ⟨operator closing, Token.isAny_eq_false closing (by decide)⟩
  · exact ⟨operator increment, Token.isAny_eq_false increment (by decide)⟩
  · exact absurd opening other
  · rcases prefixed with unary | increment
    · exact absurd ((h.operator unary).symm.trans word) (by decide)
    · exact absurd increment other
  · exact kept word

/-- The second character of an operator is no digit. -/
theorem isDigit_second_eq_false {op : String} (listed : op ∈ longOperators) (r : List Char) :
    ∀ e ∈ (op.toList ++ r).tail.head?, e.isDigit = false := by
  have long : ∀ op ∈ longOperators, op.toList.tail.head?.any (fun e => !e.isDigit) = true := by decide
  obtain ⟨e', second', notDigit⟩ := (Option.any_eq_true ..).1 (long op listed)
  have kept : (op.toList ++ r).tail.head? = some e' := by
    cases list : op.toList with
    | nil => simp [list] at second'
    | cons x xs =>
      cases xs with
      | nil => simp [list] at second'
      | cons y ys => rwa [list] at second'
  intro e second
  rw [kept] at second
  cases second
  simpa using notDigit

/-- A number in front of a point merges with it. -/
theorem AreJoined.ne_point (h : AreJoined c cs more t unary d ds more' next) (word : t.kind = .word)
    (number : startsNumber t.text = true) (kind : next.kind = .operator) : d ≠ '.' := by
  rintro rfl
  have dot : next.is "." = true := by
    refine Token.is_iff.2 ⟨kind, (h.operator_text kind).resolve_right ?_⟩
    rintro ⟨op, listed, equal⟩
    have none : ∀ op ∈ longOperators, op.toList.head? ≠ some '.' := by decide
    refine none op listed ?_
    rw [← equal, h.text']
    rfl
  have merge : t.merges next = true := by simp [Token.merges, Token.isNumber, word, number, dot]
  exact absurd (merge.symm.trans h.apart) (by decide)

/-- A word is read again in front of what follows it. -/
theorem AreJoined.stops_word (h : AreJoined c cs more t unary d ds more' next) (word : t.kind = .word) (r : List Char) :
    Stops .word t.text (cs.drop more) (next.text ++ r) := by
  obtain ⟨notWord, notSign⟩ := h.not_word word
  intro d' mem
  obtain rfl : d = d' := by
    rw [h.text'] at mem
    exact Option.some.inj mem
  cases kind : next.kind with
  | word => exact absurd kind notWord
  | text =>
    obtain ⟨rfl, -⟩ := quote_of_tokenShape (kind ▸ h.shape')
    exact ⟨by decide, fun _ => ⟨by decide, fun sign => absurd sign (by decide)⟩⟩
  | operator =>
    refine ⟨isWordPart_of_operator (kind ▸ h.shape'), fun number => ⟨?_, fun sign e second => ?_⟩⟩
    · exact h.ne_point word number kind
    · rcases h.operator_text kind with alone | ⟨op, listed, equal⟩
      · have isSign : next.isAny arithmeticOperators = true := by
          rcases sign with rfl | rfl
          · exact Token.isAny_iff.2 ⟨kind, "+", by decide, alone⟩
          · exact Token.isAny_iff.2 ⟨kind, "-", by decide, alone⟩
        exact absurd (isSign.symm.trans notSign) (by decide)
      · rw [equal] at second
        exact isDigit_second_eq_false listed r e second

theorem AreJoined.head?_eq (h : AreJoined c cs more t unary d ds more' next) {op : String}
    (text : next.text = op.toList) : op.toList.head? = some d := by
  rw [← text, h.text']
  rfl

theorem AreJoined.operator_of_goesOn (h : AreJoined c cs more t unary d ds more' next)
    (goes : goesOn t.text d = true) : next.kind = .operator := by
  by_contra operand
  exact absurd ((contains_tails_of_goesOn goes).symm.trans (contains_tails_of_operand h.shape' operand)) (by decide)

/-- Of the operators with no space in front of them, only a scope goes on with an operator, and merges with it. -/
theorem AreJoined.not_closing (h : AreJoined c cs more t unary d ds more' next) (operator : t.kind = .operator)
    (goes : goesOn t.text d = true) : ¬next.isAny [",", ";", ")", "]", ".", "::"] = true := by
  intro closing
  obtain ⟨op, listed, front, last⟩ := exists_of_goesOn goes
  obtain ⟨kind, op', mem, text⟩ := Token.isAny_iff.1 closing
  have facts : ∀ op ∈ longOperators, op.toList.getLast? = some ':' → op.toList.dropLast = [':'] := by decide
  have only : ∀ op' ∈ [",", ";", ")", "]", ".", "::"],
      op'.toList.head?.all tails.contains = true → op' = "::" := by decide
  obtain rfl := only op' mem (by rw [h.head?_eq text]; exact contains_tails_of_goesOn goes)
  obtain rfl : ':' = d := Option.some.inj (h.head?_eq text)
  have colon : t.is ":" = true := Token.is_iff.2 ⟨operator, by rw [← front, facts op listed last]; rfl⟩
  have scope : next.is "::" = true := Token.is_iff.2 ⟨kind, text⟩
  have merge : t.merges next = true := by simp [Token.merges, colon, scope]
  exact absurd (merge.symm.trans h.apart) (by decide)

theorem not_isOperand_of_goesOn (operator : t.kind = .operator) (goes : goesOn t.text d = true) :
    ¬t.isOperand = true := by
  intro operand
  obtain ⟨op, listed, front, -⟩ := exists_of_goesOn goes
  obtain ⟨-, op', mem, text⟩ := Token.isAny_iff.1 ((Token.isOperand_iff operator).1 operand)
  have facts : ∀ op ∈ longOperators, ∀ op' ∈ [")", "]"], op.toList.dropLast ≠ op'.toList := by decide
  exact facts op listed op' mem (front.trans text)

/-- Of the operators with no space behind them, only an exclamation mark goes on, and merges with what follows. -/
theorem AreJoined.not_opening (h : AreJoined c cs more t unary d ds more' next) (goes : goesOn t.text d = true) :
    ¬t.isAny ["(", "[", ".", "!", "~", "#", "::"] = true := by
  intro opening
  obtain ⟨op, listed, front, last⟩ := exists_of_goesOn goes
  obtain ⟨operator, op', mem, text⟩ := Token.isAny_iff.1 opening
  have facts : ∀ op ∈ longOperators, ∀ op' ∈ ["(", "[", ".", "!", "~", "#", "::"],
      op.toList.dropLast = op'.toList → op' = "!" ∧ op.toList.getLast? = some '=' := by decide
  obtain ⟨rfl, equals⟩ := facts op listed op' mem (front.trans text)
  obtain rfl : '=' = d := Option.some.inj (equals.symm.trans last)
  have mark : t.is "!" = true := Token.is_iff.2 ⟨operator, text⟩
  have kind := h.operator_of_goesOn goes
  have equality : next.isAny ["=", "=="] = true := by
    refine Token.isAny_iff.2 ⟨kind, ?_⟩
    rcases h.operator_text kind with alone | ⟨op', listed', text'⟩
    · exact ⟨"=", by decide, alone⟩
    · have only : ∀ op ∈ longOperators, op.toList.head? = some '=' → op = "==" := by decide
      exact ⟨"==", by decide, only op' listed' (h.head?_eq text') ▸ text'⟩
  have merge : t.merges next = true := by simp [Token.merges, mark, equality]
  exact absurd (merge.symm.trans h.apart) (by decide)

/-- No operator goes on with a parenthesis or a bracket. -/
theorem AreJoined.not_operand (h : AreJoined c cs more t unary d ds more' next) (goes : goesOn t.text d = true) :
    ¬(next.isOperand = true ∨ next.is "(" = true) := by
  intro operand
  have kind := h.operator_of_goesOn goes
  have bracket : next.isAny [")", "]", "("] = true := by
    rcases operand with operand | opening
    · exact Token.isAny_mono ((Token.isOperand_iff kind).1 operand) (by simp)
    · exact Token.isAny_iff.2 ⟨kind, "(", by decide, (Token.is_iff.1 opening).2⟩
  obtain ⟨-, op', mem, text⟩ := Token.isAny_iff.1 bracket
  have none : ∀ op' ∈ [")", "]", "("], op'.toList.head?.all tails.contains = false := by decide
  have notTail := none op' mem
  rw [h.head?_eq text] at notTail
  exact absurd ((contains_tails_of_goesOn goes).symm.trans notTail) (by decide)

/-- An operator that goes on with an operator without a space between them merges with it. -/
theorem AreJoined.goesOn_eq_false (h : AreJoined c cs more t unary d ds more' next) (operator : t.kind = .operator) :
    goesOn t.text d = false := by
  by_contra goes
  rw [Bool.not_eq_false] at goes
  rcases not_isSpaced h.unspaced with closing | ⟨-, operand⟩ | opening | ⟨-, operand⟩ | ⟨adjacent, -⟩
  · exact h.not_closing operator goes closing
  · exact not_isOperand_of_goesOn operator goes operand
  · exact h.not_opening goes opening
  · exact h.not_operand goes operand
  · have stops := (isOperator_of_tokenShape (operator ▸ h.shape)).goesOn_eq_false d (h.first adjacent)
    rw [← h.text, goes] at stops
    cases stops

/-- An operator is read again in front of what follows it. -/
theorem AreJoined.stops_operator (h : AreJoined c cs more t unary d ds more' next) (operator : t.kind = .operator)
    (r : List Char) : Stops .operator t.text (cs.drop more) (next.text ++ r) := by
  intro d' mem
  obtain rfl : d = d' := by
    rw [h.text'] at mem
    exact Option.some.inj mem
  refine ⟨h.goesOn_eq_false operator, fun dot => ?_⟩
  by_contra digit
  have merge : t.merges next = true := by
    have is : t.is "." = true := Token.is_iff.2 ⟨operator, dot⟩
    simp_all [Token.merges, h.text']
  exact absurd (merge.symm.trans h.apart) (by decide)

end

/-! ## The tokens of spaced code -/

/-- No two tokens that follow one another merge. -/
def AreUnmerged (ts : List Token) : Prop :=
  ts.IsChain fun t next => t.merges next = false

instance (ts : List Token) : Decidable (AreUnmerged ts) :=
  inferInstanceAs (Decidable (ts.IsChain _))

/-- No two tokens that follow one another clash. -/
def AreApart (ts : List Token) : Prop :=
  ts.IsChain fun t next => t.clashes next = false

instance (ts : List Token) : Decidable (AreApart ts) :=
  inferInstanceAs (Decidable (ts.IsChain _))

theorem AreApart.unmerged {ts : List Token} (h : AreApart ts) : AreUnmerged ts :=
  List.IsChain.imp (fun _ _ => Token.merges_of_not_clashes) h

/-- Whether a space stands in front of a token. -/
def gapBefore (prev : Option (Token × Bool)) (t : Token) : Bool :=
  prev.any fun (p, prevUnary) => isSpaced p prevUnary t

@[simp] theorem gapBefore_some (p : Token) (unary : Bool) (t : Token) :
    gapBefore (some (p, unary)) t = isSpaced p unary t := rfl

@[simp] theorem respaceFrom_nil (prev : Option (Token × Bool)) : respaceFrom prev [] = [] := rfl

theorem respaceFrom_cons (prev : Option (Token × Bool)) (t : Token) (ts : List Token) :
    respaceFrom prev (t :: ts) = (if gapBefore prev t then [' '] else []) ++ t.text ++
      respaceFrom (some (t, isUnary (prev.map (·.1)) t (ts.head?.any (·.spaced)))) ts := rfl

/-- The tokens with the spaces that spacing puts in front of them. -/
def respacedTokens (prev : Option (Token × Bool)) : List Token → List Token
  | [] => []
  | t :: rest =>
    { t with spaced := gapBefore prev t } ::
      respacedTokens (some (t, isUnary (prev.map (·.1)) t (rest.head?.any (·.spaced)))) rest

theorem operator_of_isUnary {prev : Option Token} {t : Token} {nextSpaced : Bool}
    (h : isUnary prev t nextSpaced = true) : t.kind = .operator := by
  simp only [isUnary, Bool.and_eq_true] at h
  exact (Token.isAny_iff.1 h.1).1

theorem stops_nil (kind : TokenKind) (text rest : List Char) : Stops kind text rest [] := by
  cases kind with
  | word => exact fun d mem => nomatch mem
  | text => exact fun _ => rfl
  | operator => exact fun d mem => nomatch mem

theorem stops_space (kind : TokenKind) (text : List Char) {rest : List Char} (more : rest ≠ []) (r : List Char) :
    Stops kind text rest (' ' :: r) := by
  cases kind with
  | text => exact fun empty => absurd empty more
  | word =>
    intro d mem
    cases mem
    exact ⟨by decide, fun _ => ⟨by decide, fun sign => absurd sign (by decide)⟩⟩
  | operator =>
    intro d mem
    cases mem
    refine ⟨?_, fun _ => by decide⟩
    by_contra goes
    rw [Bool.not_eq_false] at goes
    exact absurd (contains_tails_of_goesOn goes) (by decide)

/-- A token is read again in front of the tokens that are spaced behind it. -/
theorem stops_respaceFrom {c : Char} {cs : List Char} {kind : TokenKind} {more : Nat}
    (shape : tokenShape c cs = (kind, more)) {spaced unary : Bool} (operator : unary = true → kind = .operator)
    (apart : ∀ next ∈ (tokensFrom false (cs.drop more)).head?,
      Token.merges ⟨c :: cs.take more, kind, spaced⟩ next = false) :
    Stops kind (c :: cs.take more) (cs.drop more)
      (respaceFrom (some (⟨c :: cs.take more, kind, spaced⟩, unary)) (tokensFrom false (cs.drop more))) := by
  cases tokens : tokensFrom false (cs.drop more) with
  | nil => exact stops_nil ..
  | cons next ts =>
    have nonempty : cs.drop more ≠ [] := by
      intro empty
      rw [empty, tokensFrom] at tokens
      cases tokens
    have head : next ∈ (tokensFrom false (cs.drop more)).head? := by rw [tokens]; rfl
    obtain ⟨d, ds, more', shape', text', first⟩ := exists_of_mem_head?_tokensFrom head
    rw [respaceFrom]
    cases unspaced : isSpaced ⟨c :: cs.take more, kind, spaced⟩ unary next with
    | true =>
      simp only [Option.any_some, unspaced, if_true]
      exact stops_space kind _ nonempty _
    | false =>
      have joined : AreJoined c cs more ⟨c :: cs.take more, kind, spaced⟩ unary d ds more' next :=
        ⟨shape, rfl, operator, shape', text', fun adjacent => (first adjacent).2, unspaced, apart next head⟩
      simp only [Option.any_some, unspaced, Bool.false_eq_true, if_false, List.nil_append]
      cases kind with
      | text => exact fun empty => absurd empty nonempty
      | word => exact joined.stops_word rfl _
      | operator => exact joined.stops_operator rfl _

theorem tokensFrom_gap (gap : Bool) (r : List Char) :
    tokensFrom false ((if gap then [' '] else []) ++ r) = tokensFrom gap r := by
  cases gap with
  | false => rfl
  | true => rw [if_pos rfl, List.singleton_append, tokensFrom, if_pos (by decide)]

theorem tokensFrom_respaceFrom (prev : Option (Token × Bool)) {spaced : Bool} {code : List Char}
    (apart : AreUnmerged (tokensFrom spaced code)) : tokensFrom false (respaceFrom prev (tokensFrom spaced code)) =
      respacedTokens prev (tokensFrom spaced code) := by
  fun_induction tokensFrom spaced code generalizing prev with
  | case1 => rw [respaceFrom, tokensFrom, respacedTokens]
  | case2 _ c cs _ ih => exact ih prev apart
  | case3 spaced c cs blank kind more shape ih =>
    obtain ⟨here, there⟩ := List.isChain_cons.1 apart
    have step (gap unary : Bool) (operator : unary = true → kind = .operator) :
        tokensFrom false ((if gap then [' '] else []) ++ (c :: cs.take more) ++
          respaceFrom (some (⟨c :: cs.take more, kind, spaced⟩, unary)) (tokensFrom false (cs.drop more))) =
        ⟨c :: cs.take more, kind, gap⟩ ::
          respacedTokens (some (⟨c :: cs.take more, kind, spaced⟩, unary)) (tokensFrom false (cs.drop more)) := by
      rw [List.append_assoc, tokensFrom_gap, tokensFrom_append shape blank (stops_respaceFrom shape operator here),
        ih _ there]
    exact step _ _ operator_of_isUnary

/-! ## Spacing again -/

theorem ite_eq_or {c : Prop} [Decidable c] {x x' y y' b : Bool} (yes : x' = x ∨ x' = b) (no : y' = y ∨ y' = b) :
    (if c then x' else y') = (if c then x else y) ∨ (if c then x' else y') = b := by
  split
  · exact yes
  · exact no

/-- The space in front of a token is ruled, or it stays as it is written. -/
theorem isSpaced_withSpaced (t : Token) (unary : Bool) (next : Token) (b : Bool) :
    isSpaced t unary { next with spaced := b } = isSpaced t unary next ∨
      isSpaced t unary { next with spaced := b } = b := by
  unfold isSpaced
  refine ite_eq_or (.inl rfl) (ite_eq_or (.inl rfl) (ite_eq_or (.inl rfl) (ite_eq_or (.inl rfl) ?_)))
  refine ite_eq_or (.inr rfl) (ite_eq_or (.inl rfl) (ite_eq_or (.inl rfl) (ite_eq_or ?_ ?_)))
  · cases t.kind == .word && controlWords.contains (String.ofList t.text) with
    | true => exact .inl rfl
    | false => exact .inr rfl
  · exact ite_eq_or (.inl rfl) (.inr rfl)

/-- A space that was put stays. -/
theorem isSpaced_isSpaced (t : Token) (unary : Bool) (next : Token) :
    isSpaced t unary { next with spaced := isSpaced t unary next } = isSpaced t unary next :=
  (isSpaced_withSpaced t unary next _).elim id id

/-- The space behind a sign. -/
theorem isSpaced_sign {t : Token} (sign : t.isAny ["+", "-"] = true) (unary : Bool) (next : Token) :
    isSpaced t unary next = (!next.isAny [",", ";", ")", "]", ".", "::"] &&
      if unary then !(next.isOperand || next.is "(")
      else if next.isAny keptOperators then next.spaced else true) := by
  have increment : t.isAny ["++", "--"] = false := Token.isAny_eq_false sign (by decide)
  have prefixed : t.isAny ["(", "[", ".", "!", "~", "#", "::"] = false := Token.isAny_eq_false sign (by decide)
  have kept : t.isAny keptOperators = false := Token.isAny_eq_false sign (by decide)
  have operand : t.isOperand = false := Token.isOperand_eq_false sign (by decide)
  have arithmetic : t.isAny arithmeticOperators = true := Token.isAny_mono sign (by decide)
  unfold isSpaced
  simp only [increment, prefixed, kept, operand, arithmetic, Bool.and_false, Bool.or_false, Bool.or_true,
    Bool.false_eq_true, if_false, if_true]
  cases next.isAny [",", ";", ")", "]", ".", "::"] <;> rfl

/-- Between an operand and a sign stands a space. -/
theorem isSpaced_operand_sign {p t : Token} (operand : p.isOperand = true) (sign : t.isAny ["+", "-"] = true) :
    isSpaced p false t = true := by
  have other {operators : List String} (disjoint : operators.all (fun op => !List.contains [")", "]"] op) = true) :
      p.isAny operators = false := by
    rw [← Bool.not_eq_true]
    intro is
    exact absurd ((Token.isOperand_eq_false is disjoint).symm.trans operand) (by decide)
  have arithmetic : t.isAny arithmeticOperators = true := Token.isAny_mono sign (by decide)
  have closing : t.isAny [",", ";", ")", "]", ".", "::"] = false := Token.isAny_eq_false sign (by decide)
  have increment : t.isAny ["++", "--"] = false := Token.isAny_eq_false sign (by decide)
  have kept : t.isAny keptOperators = false := Token.isAny_eq_false sign (by decide)
  have prefixed : p.isAny ["(", "[", ".", "!", "~", "#", "::"] = false := other (by decide)
  have increment' : p.isAny ["++", "--"] = false := other (by decide)
  have kept' : p.isAny keptOperators = false := other (by decide)
  unfold isSpaced
  simp [closing, increment, prefixed, increment', kept, kept', arithmetic]

/-- Whether a sign behind an operand is unary depends on the blanks around it. -/
theorem isUnary_sign {p t : Token} (operand : p.isOperand = true) (sign : t.isAny ["+", "-"] = true)
    (nextSpaced : Bool) : isUnary (some p) t nextSpaced = (t.spaced && !nextSpaced) := by
  have arithmetic : t.isAny arithmeticOperators = true := Token.isAny_mono sign (by decide)
  simp [isUnary, operand, sign, arithmetic]

theorem isOperand_of_isUnary {prev : Option Token} {t : Token} {nextSpaced : Bool}
    (h : isUnary prev t nextSpaced = true) : t.isOperand = false := by
  simp only [isUnary, Bool.and_eq_true] at h
  exact Token.isOperand_eq_false h.1 (by decide)

/-- What stands in front is spaced in another way. -/
structure AreAlike (prev prev' : Option (Token × Bool)) : Prop where
  operand : prev'.map (·.1.isOperand) = prev.map (·.1.isOperand)
  unary : ∀ x ∈ prev, x.2 = true → x.1.isOperand = false

/-- Whether anything but a sign behind an operand is unary does not depend on blanks. -/
theorem isUnary_congr {prev prev' : Option (Token × Bool)}
    (operand : prev'.map (·.1.isOperand) = prev.map (·.1.isOperand)) {t : Token}
    (unsigned : ¬(t.isAny ["+", "-"] = true ∧ (prev.map (·.1)).any Token.isOperand = true)) (b s s' : Bool) :
    isUnary (prev'.map (·.1)) { t with spaced := b } s' = isUnary (prev.map (·.1)) t s := by
  have any (operators : List String) : Token.isAny { t with spaced := b } operators = t.isAny operators := rfl
  have binary : (prev'.map (·.1)).any (fun p => p.isOperand && !(t.isAny ["+", "-"] && b && !s')) =
      (prev.map (·.1)).any (fun p => p.isOperand && !(t.isAny ["+", "-"] && t.spaced && !s)) := by
    match prev, prev' with
    | none, none => rfl
    | some p, some p' =>
      have operand : p'.1.isOperand = p.1.isOperand := Option.some.inj operand
      have unsigned : p.1.isOperand = true → t.isAny ["+", "-"] = false := by
        intro is
        rw [← Bool.not_eq_true]
        exact fun sign => unsigned ⟨sign, is⟩
      simp only [Option.map_some, Option.any_some, operand]
      cases is : p.1.isOperand with
      | false => rfl
      | true => rw [unsigned is]; rfl
  simp only [isUnary, any, binary]

theorem isSpaced_withSpaced_left (t : Token) (b unary : Bool) (next : Token) :
    isSpaced { t with spaced := b } unary next = isSpaced t unary next := by
  have any (operators : List String) : Token.isAny { t with spaced := b } operators = t.isAny operators := rfl
  have operand : Token.isOperand { t with spaced := b } = t.isOperand := rfl
  unfold isSpaced
  simp only [any, operand]

/-- Where tokens do not clash, an operator behind a sign is spaced if its blanks are kept. -/
theorem spaced_of_not_clashes {t n : Token} (apart : t.clashes n = false) (sign : t.isAny ["+", "-"] = true)
    (kept : n.isAny keptOperators = true) : n.spaced = true := by
  by_contra spaced
  have unspaced : n.spaced = false := by simpa using spaced
  have clash : t.clashes n = true := by simp [Token.clashes, sign, kept, unspaced]
  exact absurd (clash.symm.trans apart) (by decide)

/-- An operator whose blanks are kept is no operand and opens no parenthesis. -/
theorem isAny_keptOperators_of_operand {n : Token} (operand : (n.isOperand || n.is "(") = true) :
    n.isAny keptOperators = false := by
  rw [← Bool.not_eq_true]
  intro kept
  rcases Bool.or_eq_true_iff.1 operand with value | paren
  · exact absurd ((Token.isOperand_eq_false kept (by decide)).symm.trans value) (by decide)
  · have opening : n.isAny ["("] = true :=
      Token.isAny_iff.2 ⟨(Token.is_iff.1 paren).1, "(", List.mem_singleton_self _, (Token.is_iff.1 paren).2⟩
    exact absurd ((Token.isAny_eq_false kept (by decide)).symm.trans opening) (by decide)

/-- A sign that is unary if no space is put behind it gets the same space again. -/
theorem isSpaced_sign_again {t n : Token} (sign : t.isAny ["+", "-"] = true) (apart : t.clashes n = false)
    (u : Bool) : isSpaced t (!isSpaced t u n) { n with spaced := isSpaced t u n } = isSpaced t u n := by
  have kept := spaced_of_not_clashes apart sign
  have other := isAny_keptOperators_of_operand (n := n)
  have again (u b : Bool) : isSpaced t u { n with spaced := b } = (!n.isAny [",", ";", ")", "]", ".", "::"] &&
      if u then !(n.isOperand || n.is "(") else if n.isAny keptOperators then b else true) := isSpaced_sign sign u _
  rw [again, isSpaced_sign sign u n]
  generalize (n.isOperand || n.is "(") = isOperand at *
  generalize n.isAny keptOperators = isKept at *
  generalize n.isAny _ = isClosing
  generalize n.spaced = nextSpaced at *
  clear again apart
  cases isClosing <;> cases u <;> cases isOperand <;> cases isKept <;> simp_all

/-- The space behind a token is put again. -/
theorem isSpaced_again {prev prev' : Option (Token × Bool)} (alike : AreAlike prev prev') {t n : Token}
    (apart : t.clashes n = false) {u u' : Bool} (unary : u = isUnary (prev.map (·.1)) t n.spaced)
    (unary' : u' = isUnary (prev'.map (·.1)) { t with spaced := gapBefore prev t } (isSpaced t u n)) :
    isSpaced t u' { n with spaced := isSpaced t u n } = isSpaced t u n := by
  by_cases signed : t.isAny ["+", "-"] = true ∧ (prev.map (·.1)).any Token.isOperand = true
  · obtain ⟨sign, operand⟩ := signed
    obtain ⟨⟨p, pu⟩, rfl⟩ : ∃ x, prev = some x := by
      cases prev with
      | none => cases operand
      | some x => exact ⟨x, rfl⟩
    obtain ⟨⟨p', pu'⟩, rfl⟩ : ∃ x, prev' = some x := by
      cases prev' with
      | none => cases alike.operand
      | some x => exact ⟨x, rfl⟩
    have operand' : p'.isOperand = true := (Option.some.inj alike.operand).trans operand
    obtain rfl : pu = false := by
      rw [← Bool.not_eq_true]
      exact fun is => absurd ((alike.unary _ rfl is).symm.trans operand) (by decide)
    have gap : gapBefore (some (p, false)) t = true := isSpaced_operand_sign operand sign
    have sign' : Token.isAny { t with spaced := true } ["+", "-"] = true := sign
    rw [gap, Option.map_some, isUnary_sign operand' sign', Bool.true_and] at unary'
    rw [unary']
    exact isSpaced_sign_again sign apart u
  · have same : u' = u := by
      rw [unary, unary', isUnary_congr alike.operand signed]
    rw [same, isSpaced_isSpaced]

theorem respaceFrom_respacedTokens {prev prev' : Option (Token × Bool)} (alike : AreAlike prev prev')
    {ts : List Token} (apart : AreApart ts)
    (same : ∀ t ∈ ts.head?, gapBefore prev' { t with spaced := gapBefore prev t } = gapBefore prev t) :
    respaceFrom prev' (respacedTokens prev ts) = respaceFrom prev ts := by
  induction ts generalizing prev prev' with
  | nil => rfl
  | cons t ts ih =>
    obtain ⟨first, apart⟩ := List.isChain_cons.1 apart
    have gap := same t rfl
    generalize unary : isUnary (prev.map (·.1)) t (ts.head?.any (·.spaced)) = u
    have further (u' : Bool) (unary' : u' = isUnary (prev'.map (·.1)) { t with spaced := gapBefore prev t }
        ((respacedTokens (some (t, u)) ts).head?.any (·.spaced))) :
        respaceFrom (some ({ t with spaced := gapBefore prev t }, u')) (respacedTokens (some (t, u)) ts) =
          respaceFrom (some (t, u)) ts := by
      refine ih ⟨rfl, ?_⟩ apart fun n mem => ?_
      · intro x mem is
        cases mem
        exact isOperand_of_isUnary (unary.trans is)
      · obtain ⟨rest, rfl⟩ : ∃ rest, ts = n :: rest := ⟨_, List.eq_cons_of_mem_head? mem⟩
        have := isSpaced_again alike (first n rfl) unary.symm unary'
        simpa only [gapBefore, Option.any_some, isSpaced_withSpaced_left] using this
    rw [respacedTokens, respaceFrom_cons, respaceFrom_cons prev, unary, gap, further _ rfl]

/-- Spacing code in which no tokens clash is done once and for all. -/
theorem respace_respace {code : List Char} (apart : AreApart (tokens code)) :
    respace (respace code) = respace code := by
  have again : tokens (respace code) = respacedTokens none (tokens code) := tokensFrom_respaceFrom none apart.unmerged
  have alike : AreAlike none none := ⟨rfl, fun x mem => nomatch mem⟩
  rw [respace, again, respaceFrom_respacedTokens alike apart fun t _ => rfl, ← respace]

end ShaderAnalysis.Format
