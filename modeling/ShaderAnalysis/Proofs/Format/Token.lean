import Mathlib.Data.List.Basic
import Mathlib.Tactic.ByContra
import ShaderAnalysis.Format.Token

/-!
# Where tokens end

A token ends where the next character does not go on with it. So it is read again from its own text, whatever
follows, as long as this starts with nothing that goes on with it (`tokensFrom_append`).
-/

namespace ShaderAnalysis.Format

open Text

/-! ## Operators -/

/-- Whether `text` and `c` are an operator, or start one. -/
def goesOn (text : List Char) (c : Char) : Bool :=
  longOperators.any fun op => op.toList == text ++ [c]

theorem exists_of_goesOn {text : List Char} {c : Char} (h : goesOn text c = true) :
    ∃ op ∈ longOperators, op.toList.dropLast = text ∧ op.toList.getLast? = some c := by
  obtain ⟨op, listed, equal⟩ := List.any_eq_true.1 h
  rw [beq_iff_eq] at equal
  exact ⟨op, listed, by rw [equal, List.dropLast_concat], by rw [equal, List.getLast?_concat]⟩

/-- With an operator, all that start it are listed. -/
theorem goesOn_of_isPrefix {op : String} (listed : op ∈ longOperators) {text : List Char} {c : Char}
    (nonempty : text ≠ []) (isPrefix : text ++ [c] <+: op.toList) : goesOn text c = true := by
  have closed : ∀ op ∈ longOperators, ∀ n < op.toList.length + 1, 2 ≤ n →
      (longOperators.any fun op' => op'.toList == op.toList.take n) = true := by decide
  have long := List.length_pos_iff.2 nonempty
  have short := isPrefix.length_le
  rw [List.length_append, List.length_singleton] at short
  rw [goesOn, List.prefix_iff_eq_take.1 isPrefix]
  refine closed op listed _ ?_ ?_ <;> rw [List.length_append, List.length_singleton] <;> omega

/-- Where nothing goes on with a text, no operator does. -/
theorem isPrefix_of_not_goesOn {text r : List Char} (nonempty : text ≠ [])
    (stops : ∀ d ∈ r.head?, goesOn text d = false) {op : String} (listed : op ∈ longOperators)
    (isPrefix : op.toList <+: text ++ r) : op.toList <+: text := by
  rcases Nat.le_total op.toList.length text.length with short | long
  · exact List.prefix_of_prefix_length_le isPrefix (List.prefix_append text r) short
  · have begins : text <+: op.toList := List.prefix_of_prefix_length_le (List.prefix_append text r) isPrefix long
    obtain ⟨more, equal⟩ := begins
    cases more with
    | nil => exact ⟨[], by rw [← equal, List.append_nil, List.append_nil]⟩
    | cons c more =>
      rw [← equal, List.prefix_append_right_inj] at isPrefix
      obtain ⟨further, rfl⟩ := isPrefix
      have goes : goesOn text c = true :=
        goesOn_of_isPrefix listed nonempty ⟨more, by rw [← equal, List.append_assoc, List.singleton_append]⟩
      exact absurd (goes.symm.trans (stops c rfl)) (by decide)

/-- What is known of an operator that is read. -/
structure IsOperator (c : Char) (cs : List Char) (more : Nat) : Prop where
  quote : c ≠ '"'
  number : ¬startsNumber (c :: cs) = true
  word : ¬(isIdentStart c || isForeign c) = true
  found : ∀ op, (longOperators.find? fun op => op.toList.isPrefixOf (c :: cs)) = some op →
    op.toList = c :: cs.take more
  alone : (longOperators.find? fun op => op.toList.isPrefixOf (c :: cs)) = none → more = 0

theorem isOperator_of_tokenShape {c : Char} {cs : List Char} {more : Nat}
    (shape : tokenShape c cs = (.operator, more)) : IsOperator c cs more := by
  unfold tokenShape at shape
  split at shape
  · cases shape
  rename_i quote
  split at shape
  · cases shape
  rename_i number
  split at shape
  · cases shape
  rename_i word
  refine ⟨quote, number, word, fun op found => ?_, fun none => by rw [none] at shape; cases shape; rfl⟩
  rw [found] at shape
  cases shape
  have holds := List.find?_some found
  have isPrefix : op.toList <+: c :: cs := List.isPrefixOf_iff_prefix.1 holds
  have nonempty : ∀ op ∈ longOperators, op.length = (op.length - 1) + 1 := by decide
  rw [← List.take_succ_cons, ← nonempty op (List.mem_of_find?_eq_some found), ← String.length_toList]
  exact List.prefix_iff_eq_take.1 isPrefix

/-- An operator is one character or one of the listed ones. -/
theorem IsOperator.text {c : Char} {cs : List Char} {more : Nat} (h : IsOperator c cs more) :
    c :: cs.take more = [c] ∨ ∃ op ∈ longOperators, c :: cs.take more = op.toList := by
  cases found : longOperators.find? fun op => op.toList.isPrefixOf (c :: cs) with
  | none => exact .inl (by rw [h.alone found, List.take_zero])
  | some op => exact .inr ⟨op, List.mem_of_find?_eq_some found, (h.found op found).symm⟩

/-- No listed operator stands behind one that it starts with. -/
theorem pairwise_longOperators : longOperators.Pairwise fun a b => ¬a.toList <+: b.toList := by
  decide

/-- Nothing goes on with an operator that is read. -/
theorem IsOperator.goesOn_eq_false {c : Char} {cs : List Char} {more : Nat} (h : IsOperator c cs more) :
    ∀ d ∈ (cs.drop more).head?, goesOn (c :: cs.take more) d = false := by
  intro d mem
  by_contra goes
  rw [Bool.not_eq_false] at goes
  obtain ⟨op, listed, equal⟩ := List.any_eq_true.1 goes
  rw [beq_iff_eq] at equal
  have isPrefix : op.toList <+: c :: cs := by
    refine ⟨(cs.drop more).tail, ?_⟩
    rw [equal, List.append_assoc, List.singleton_append, ← List.eq_cons_of_mem_head? mem, List.cons_append,
      List.take_append_drop]
  cases found : longOperators.find? fun op => op.toList.isPrefixOf (c :: cs) with
  | none => exact List.find?_eq_none.1 found op listed (List.isPrefixOf_iff_prefix.2 isPrefix)
  | some first =>
    -- the operator that was found stands behind the one that goes on, which was tried before
    obtain ⟨-, before, behind, list, earlier⟩ := List.find?_eq_some_iff_append.1 found
    have order := pairwise_longOperators
    rw [list] at listed order
    rcases List.mem_append.1 listed with early | late
    · have := earlier op early
      rw [List.isPrefixOf_iff_prefix.2 isPrefix] at this
      cases this
    · rcases List.mem_cons.1 late with rfl | late
      · have := congrArg List.length ((h.found op found).symm.trans equal)
        simp at this
      · refine (List.pairwise_cons.1 (List.pairwise_append.1 order).2.1).1 op late ?_
        rw [h.found first found, equal]
        exact List.prefix_append _ _

/-! ## Reading a token again -/

/-- What may stand behind the text of a token without changing where it ends; `rest` is what stood behind it when
it was read. -/
def Stops (kind : TokenKind) (text rest r : List Char) : Prop :=
  match kind with
  | .text => rest = [] → r = []
  | .word => ∀ d ∈ r.head?, isWordPart d = false ∧ (startsNumber text = true →
      d ≠ '.' ∧ (d = '+' ∨ d = '-' → ∀ e ∈ r.tail.head?, e.isDigit = false))
  | .operator => ∀ d ∈ r.head?, goesOn text d = false ∧ (text = ['.'] → d.isDigit = false)

theorem head?_take_append {cs : List Char} {more : Nat} (nonempty : cs.take more ≠ []) (r : List Char) :
    (cs.take more ++ r).head? = cs.head? := by
  rw [ne_eq, List.take_eq_nil_iff, not_or] at nonempty
  obtain ⟨n, rfl⟩ := Nat.exists_eq_succ_of_ne_zero nonempty.1
  obtain ⟨c, cs, rfl⟩ := List.exists_cons_of_ne_nil nonempty.2
  rfl

theorem startsNumber_cons (c : Char) (cs : List Char) :
    startsNumber (c :: cs) = (c.isDigit || c == '.' && cs.head?.any Char.isDigit) := by
  unfold startsNumber
  split
  · rename_i d ds equal
    cases equal
    simp
  · rename_i notDot equal
    cases equal
    by_cases dot : c = '.'
    · subst dot
      cases cs with
      | nil => simp
      | cons d ds => exact (notDot d ds rfl rfl).elim
    · simp [dot]
  · rename_i equal
    cases equal

/-- A search finds the same element if fewer satisfy what is looked for, but the one that was found does. -/
theorem find?_congr_of_found {α : Type} {p q : α → Bool} {xs : List α}
    (fewer : ∀ x ∈ xs, q x = true → p x = true) (found : ∀ x, xs.find? p = some x → q x = true) :
    xs.find? q = xs.find? p := by
  induction xs with
  | nil => rfl
  | cons x xs ih =>
    by_cases here : p x = true
    · have := found x (List.find?_cons_of_pos here)
      rw [List.find?_cons_of_pos here, List.find?_cons_of_pos this]
    · have other : ¬q x = true := fun h => here (fewer x List.mem_cons_self h)
      rw [List.find?_cons_of_neg here] at found ⊢
      rw [List.find?_cons_of_neg other]
      exact ih (fun y mem => fewer y (List.mem_cons_of_mem x mem)) found

theorem tokenShape_append_operator {c : Char} {cs r : List Char} {more : Nat}
    (shape : tokenShape c cs = (.operator, more)) (stops : Stops .operator (c :: cs.take more) (cs.drop more) r) :
    tokenShape c (cs.take more ++ r) = (.operator, more) := by
  have operator := isOperator_of_tokenShape shape
  have number : ¬startsNumber (c :: (cs.take more ++ r)) = true := by
    have number := operator.number
    rw [startsNumber_cons] at number ⊢
    rw [Bool.or_eq_true, Bool.and_eq_true, beq_iff_eq] at number ⊢
    rintro (digit | ⟨rfl, digit⟩)
    · exact number (.inl digit)
    · by_cases alone : cs.take more = []
      · rw [alone, List.nil_append] at digit
        obtain ⟨d, mem, isDigit⟩ := (Option.any_eq_true ..).1 digit
        exact absurd (isDigit.symm.trans ((stops d mem).2 (by rw [alone]))) (by decide)
      · rw [head?_take_append alone] at digit
        exact number (.inr ⟨rfl, digit⟩)
  have same : (longOperators.find? fun op => op.toList.isPrefixOf (c :: (cs.take more ++ r))) =
      longOperators.find? fun op => op.toList.isPrefixOf (c :: cs) := by
    refine find?_congr_of_found (fun op listed holds => ?_) fun op found => ?_
    · have ends : ∀ d ∈ r.head?, goesOn (c :: cs.take more) d = false := fun d mem => (stops d mem).1
      have isPrefix := isPrefix_of_not_goesOn (List.cons_ne_nil _ _) ends listed (List.isPrefixOf_iff_prefix.1 holds)
      exact List.isPrefixOf_iff_prefix.2 (isPrefix.trans (List.prefix_cons_inj c |>.2 (List.take_prefix _ _)))
    · rw [operator.found op found]
      exact List.isPrefixOf_iff_prefix.2 (List.prefix_append (c :: cs.take more) r)
  rw [← shape]
  unfold tokenShape
  rw [if_neg operator.quote, if_neg operator.quote, if_neg number, if_neg operator.number, if_neg operator.word,
    if_neg operator.word, same]

/-- What starts neither kind of escape is no backslash. -/
theorem ne_backslash {c : Char} {cs : List Char} (escape : c = '\\' → cs = [] → False)
    (escaped : ∀ d ds, c = '\\' → cs = d :: ds → False) : c ≠ '\\' := by
  rintro rfl
  cases cs with
  | nil => exact escape rfl rfl
  | cons d ds => exact escaped d ds rfl rfl

theorem literalLength_cons {c : Char} (other : c ≠ '\\') (quote : c ≠ '"') (cs : List Char) :
    literalLength (c :: cs) = literalLength cs + 1 := by
  rw [literalLength, if_neg quote]
  · rintro rfl
    exact absurd rfl other
  · rintro d ds rfl
    exact absurd rfl other

theorem literalLength_append {cs r : List Char} (stops : cs.drop (literalLength cs) = [] → r = []) :
    literalLength (cs.take (literalLength cs) ++ r) = literalLength cs := by
  fun_induction literalLength cs with
  | case1 =>
    rw [stops rfl]
    rfl
  | case2 =>
    rw [stops rfl]
    rfl
  | case3 c cs ih => exact congrArg (· + 2) (ih stops)
  | case4 cs => rfl
  | case5 c cs escape escaped quote ih =>
    rw [List.take_succ_cons, List.cons_append, literalLength_cons (ne_backslash escape escaped) quote, ih stops]

theorem numberLength_eq_zero {hexadecimal : Bool} {last : Char} {r : List Char}
    (stops : ∀ d ∈ r.head?, isWordPart d = false ∧ d ≠ '.' ∧
      (d = '+' ∨ d = '-' → ∀ e ∈ r.tail.head?, e.isDigit = false)) : numberLength hexadecimal last r = 0 := by
  cases r with
  | nil => rfl
  | cons d ds =>
    obtain ⟨part, dot, sign⟩ := stops d rfl
    have ident : isIdentChar d = false := (Bool.or_eq_false_iff.1 part).1
    rw [numberLength, if_neg (by simp [ident, dot]), if_neg]
    intro exponent
    simp only [Bool.and_eq_true, Bool.or_eq_true, beq_iff_eq] at exponent
    obtain ⟨⟨-, isSign⟩, digit⟩ := exponent
    obtain ⟨e, mem, isDigit⟩ := (Option.any_eq_true ..).1 digit
    exact absurd (isDigit.symm.trans (sign isSign e mem)) (by decide)

/-- A number goes on with what an identifier goes on with. -/
theorem take_numberLength_ne_nil (hexadecimal : Bool) (last : Char) {cs : List Char}
    (part : cs.head?.any isIdentChar = true) : cs.take (numberLength hexadecimal last cs) ≠ [] := by
  cases cs with
  | nil => cases part
  | cons d ds =>
    have part' : (isIdentChar d || d == '.') = true := Bool.or_eq_true_iff.2 (.inl part)
    rw [numberLength, if_pos part', List.take_succ_cons]
    exact List.cons_ne_nil _ _

theorem isIdentChar_of_isDigit {c : Char} (h : c.isDigit = true) : isIdentChar c = true := by
  simp [isIdentChar, Char.isAlphanum, h]

theorem numberLength_append {hexadecimal : Bool} {last : Char} {cs r : List Char}
    (stops : ∀ d ∈ r.head?, isWordPart d = false ∧ d ≠ '.' ∧
      (d = '+' ∨ d = '-' → ∀ e ∈ r.tail.head?, e.isDigit = false)) :
    numberLength hexadecimal last (cs.take (numberLength hexadecimal last cs) ++ r) =
      numberLength hexadecimal last cs := by
  fun_induction numberLength hexadecimal last cs with
  | case1 => exact numberLength_eq_zero stops
  | case2 last c cs part ih => rw [List.take_succ_cons, List.cons_append, numberLength, if_pos part, ih]
  | case3 last c cs part sign ih =>
    have digit : cs.head?.any Char.isDigit = true := (Bool.and_eq_true_iff.1 sign).2
    have part' : cs.head?.any isIdentChar = true := by
      obtain ⟨e, mem, isDigit⟩ := (Option.any_eq_true ..).1 digit
      exact (Option.any_eq_true ..).2 ⟨e, mem, isIdentChar_of_isDigit isDigit⟩
    have kept := head?_take_append (take_numberLength_ne_nil hexadecimal c part') r
    rw [List.take_succ_cons, List.cons_append, numberLength, if_neg part, kept, if_pos sign, ih]
  | case4 => exact numberLength_eq_zero stops

theorem isPrefixOf_hexadecimal (c : Char) (cs : List Char) :
    ['0', 'x'].isPrefixOf (c :: cs) = (c == '0' && cs.head? == some 'x') := by
  cases cs with
  | nil => simp [List.isPrefixOf]
  | cons d ds =>
    simp only [List.isPrefixOf, List.head?_cons, Option.some_beq_some, Bool.and_true]
    rw [BEq.comm, @BEq.comm _ _ _ 'x']

theorem tokenShape_append_number {c : Char} {cs r : List Char} (quote : c ≠ '"')
    (number : startsNumber (c :: cs) = true)
    (stops : Stops .word (c :: cs.take (numberLength (['0', 'x'].isPrefixOf (c :: cs)) c cs)) cs r) :
    tokenShape c (cs.take (numberLength (['0', 'x'].isPrefixOf (c :: cs)) c cs) ++ r) =
      (.word, numberLength (['0', 'x'].isPrefixOf (c :: cs)) c cs) := by
  generalize hexadecimal : ['0', 'x'].isPrefixOf (c :: cs) = isHex at stops ⊢
  have kept := @take_numberLength_ne_nil isHex c cs
  have number' (r : List Char) : startsNumber (c :: (cs.take (numberLength isHex c cs) ++ r)) = true := by
    rw [startsNumber_cons, Bool.or_eq_true, Bool.and_eq_true] at number ⊢
    refine number.imp_right fun ⟨dot, digit⟩ => ⟨dot, ?_⟩
    obtain ⟨d, mem, isDigit⟩ := (Option.any_eq_true ..).1 digit
    rwa [head?_take_append (kept ((Option.any_eq_true ..).2 ⟨d, mem, isIdentChar_of_isDigit isDigit⟩))]
  have ends : ∀ d ∈ r.head?, isWordPart d = false ∧ d ≠ '.' ∧
      (d = '+' ∨ d = '-' → ∀ e ∈ r.tail.head?, e.isDigit = false) := by
    intro d mem
    obtain ⟨part, further⟩ := stops d mem
    exact ⟨part, further (by simpa using number' [])⟩
  have hexadecimal' : ['0', 'x'].isPrefixOf (c :: (cs.take (numberLength isHex c cs) ++ r)) = isHex := by
    refine Eq.trans ?_ hexadecimal
    rw [isPrefixOf_hexadecimal, isPrefixOf_hexadecimal]
    by_cases alone : cs.take (numberLength isHex c cs) = []
    · have here : cs.head? ≠ some 'x' := fun h => kept (by rw [h]; decide) alone
      have there : r.head? ≠ some 'x' := fun h => absurd (ends 'x' h).1 (by decide)
      rw [alone, List.nil_append, beq_false_of_ne here, beq_false_of_ne there]
    · rw [head?_take_append alone]
  rw [tokenShape, if_neg quote, if_pos (number' r), hexadecimal', numberLength_append ends]

theorem tokenShape_append_word {c : Char} {cs r : List Char} {more : Nat}
    (shape : tokenShape c cs = (.word, more)) (stops : Stops .word (c :: cs.take more) cs r) :
    tokenShape c (cs.take more ++ r) = (.word, more) := by
  unfold tokenShape at shape
  split at shape
  · cases shape
  rename_i quote
  split at shape
  · rename_i number
    cases shape
    exact tokenShape_append_number quote number stops
  split at shape
  · rename_i number word
    cases shape
    have run : cs.take (cs.takeWhile isWordPart).length = cs.takeWhile isWordPart :=
      (List.prefix_iff_eq_take.1 (List.takeWhile_prefix isWordPart)).symm
    have number' : ¬startsNumber (c :: (cs.takeWhile isWordPart ++ r)) = true := by
      rw [startsNumber_cons, Bool.or_eq_true, Bool.and_eq_true, beq_iff_eq] at number ⊢
      rintro (digit | ⟨rfl, -⟩)
      · exact number (.inl digit)
      · exact absurd word (by decide)
    have nothing : r.takeWhile isWordPart = [] := by
      cases r with
      | nil => rfl
      | cons d ds => rw [List.takeWhile_cons_of_neg (by simp [(stops d rfl).1])]
    have whole : (cs.takeWhile isWordPart ++ r).takeWhile isWordPart = cs.takeWhile isWordPart := by
      rw [List.takeWhile_append_of_pos (List.all_eq_true.1 List.all_takeWhile), nothing, List.append_nil]
    rw [run, tokenShape, if_neg quote, if_neg number', if_pos word, whole]
  · split at shape <;> cases shape

theorem quote_of_tokenShape {c : Char} {cs : List Char} {more : Nat} (shape : tokenShape c cs = (.text, more)) :
    c = '"' ∧ more = literalLength cs := by
  unfold tokenShape at shape
  split at shape
  · cases shape
    exact ⟨‹_›, rfl⟩
  split at shape
  · cases shape
  split at shape
  · cases shape
  · split at shape <;> cases shape

theorem tokenShape_append_text {c : Char} {cs r : List Char} {more : Nat} (shape : tokenShape c cs = (.text, more))
    (stops : Stops .text (c :: cs.take more) (cs.drop more) r) :
    tokenShape c (cs.take more ++ r) = (.text, more) := by
  obtain ⟨rfl, rfl⟩ := quote_of_tokenShape shape
  rw [tokenShape, if_pos rfl, literalLength_append stops]

theorem literalLength_le (cs : List Char) : literalLength cs ≤ cs.length := by
  fun_induction literalLength cs with
  | case1 => exact Nat.le_refl 0
  | case2 => exact Nat.le_refl 1
  | case3 c cs ih => exact Nat.add_le_add_right ih 2
  | case4 cs => exact Nat.le_add_left 1 cs.length
  | case5 c cs _ _ _ ih => exact Nat.add_le_add_right ih 1

theorem numberLength_le (hexadecimal : Bool) (last : Char) (cs : List Char) :
    numberLength hexadecimal last cs ≤ cs.length := by
  fun_induction numberLength hexadecimal last cs with
  | case1 => exact Nat.le_refl 0
  | case2 last c cs _ ih => exact Nat.add_le_add_right ih 1
  | case3 last c cs _ _ ih => exact Nat.add_le_add_right ih 1
  | case4 => exact Nat.zero_le _

theorem le_length_of_tokenShape {c : Char} {cs : List Char} {kind : TokenKind} {more : Nat}
    (shape : tokenShape c cs = (kind, more)) : more ≤ cs.length := by
  unfold tokenShape at shape
  split at shape
  · cases shape
    exact literalLength_le cs
  split at shape
  · cases shape
    exact numberLength_le ..
  split at shape
  · cases shape
    exact (List.takeWhile_prefix _).length_le
  split at shape
  · rename_i op found
    cases shape
    have holds := List.find?_some found
    have isPrefix : op.toList <+: c :: cs := List.isPrefixOf_iff_prefix.1 holds
    have := isPrefix.length_le
    rw [String.length_toList, List.length_cons] at this
    omega
  · cases shape
    exact Nat.zero_le _

theorem isWordPart_of_word {c : Char} {cs : List Char} {more : Nat} (shape : tokenShape c cs = (.word, more)) :
    isWordPart c = true ∨ c = '.' := by
  unfold tokenShape at shape
  split at shape
  · cases shape
  split at shape
  · rename_i number
    rw [startsNumber_cons, Bool.or_eq_true, Bool.and_eq_true, beq_iff_eq] at number
    exact number.imp (fun digit => Bool.or_eq_true_iff.2 (.inl (isIdentChar_of_isDigit digit))) And.left
  split at shape
  · rename_i start
    left
    simp only [isIdentStart, Bool.or_eq_true] at start
    simp only [isWordPart, isIdentChar, Char.isAlphanum, Bool.or_eq_true]
    tauto
  · split at shape <;> cases shape

/-- Whether a word can have `c` in it. -/
def isInWord (c : Char) : Bool :=
  isWordPart c || c == '.' || c == '+' || c == '-'

theorem isInWord_of_isIdentChar {c : Char} (h : isIdentChar c = true) : isInWord c = true := by
  simp [isInWord, isWordPart, h]

theorem isInWord_of_mem_take_numberLength {hexadecimal : Bool} {last c : Char} {cs : List Char}
    (mem : c ∈ cs.take (numberLength hexadecimal last cs)) : isInWord c = true := by
  fun_induction numberLength hexadecimal last cs with
  | case1 => simp at mem
  | case2 last d cs part ih =>
    rcases List.mem_cons.1 mem with rfl | mem
    · rcases Bool.or_eq_true_iff.1 part with ident | dot
      · exact isInWord_of_isIdentChar ident
      · rw [beq_iff_eq.1 dot]
        decide
    · exact ih mem
  | case3 last d cs _ sign ih =>
    rcases List.mem_cons.1 mem with rfl | mem
    · simp only [Bool.and_eq_true] at sign
      rcases Bool.or_eq_true_iff.1 sign.1.2 with plus | minus
      · rw [beq_iff_eq.1 plus]
        decide
      · rw [beq_iff_eq.1 minus]
        decide
    · exact ih mem
  | case4 => simp at mem

theorem isInWord_of_mem_word {c : Char} {cs : List Char} {more : Nat} (shape : tokenShape c cs = (.word, more)) :
    ∀ d ∈ c :: cs.take more, isInWord d = true := by
  have first : isInWord c = true := by
    rcases isWordPart_of_word shape with part | rfl
    · simp [isInWord, part]
    · decide
  refine List.forall_mem_cons.2 ⟨first, fun d mem => ?_⟩
  unfold tokenShape at shape
  split at shape
  · cases shape
  split at shape
  · cases shape
    exact isInWord_of_mem_take_numberLength mem
  split at shape
  · cases shape
    rw [← List.prefix_iff_eq_take.1 (List.takeWhile_prefix isWordPart)] at mem
    have part : isWordPart d = true := List.all_eq_true.1 List.all_takeWhile d mem
    simp [isInWord, part]
  · split at shape <;> cases shape

/-- A token is read again where nothing goes on with it. -/
theorem tokensFrom_append {c : Char} {cs : List Char} {kind : TokenKind} {more : Nat}
    (shape : tokenShape c cs = (kind, more)) (blank : ¬isAsciiBlank c = true) {r : List Char}
    (stops : Stops kind (c :: cs.take more) (cs.drop more) r) (spaced : Bool) :
    tokensFrom spaced (c :: cs.take more ++ r) = ⟨c :: cs.take more, kind, spaced⟩ :: tokensFrom false r := by
  have again : tokenShape c (cs.take more ++ r) = (kind, more) := by
    cases kind with
    | word => exact tokenShape_append_word shape stops
    | text => exact tokenShape_append_text shape stops
    | operator => exact tokenShape_append_operator shape stops
  have length : (cs.take more).length = more := List.length_take_of_le (le_length_of_tokenShape shape)
  rw [List.cons_append, tokensFrom, if_neg blank, again]
  simp only
  rw [List.take_left' length, List.drop_left' length]

end ShaderAnalysis.Format
