import Mathlib.Data.List.TakeWhile
import ShaderAnalysis.Code.CallSite
import ShaderAnalysis.Proofs.Text.Cut
import ShaderAnalysis.Proofs.Text.Trim

/-!
# Open calls

A call is open at the end of a text if its parenthesis is, and no statement has ended in it since. Going back
from the end finds exactly this parenthesis (`openParenthesis?_eq_some_iff`), and the word before it is then
read off (`nameBefore_ok_iff`). There is an answer unless the character in front of that word is not ASCII
(`at?_ok_iff`): the word would be cut off one byte behind the start of that character.
-/

namespace ShaderAnalysis.CallSite

open Text

/-! ## Arguments -/

/-- A semicolon or a brace. -/
def endsStatement (c : Char) : Bool :=
  c == ';' || c == '\x7b' || c == '\x7d'

theorem endsStatement_iff {c : Char} : endsStatement c = true ↔ c = ';' ∨ c = '\x7b' ∨ c = '\x7d' := by
  simp [endsStatement, or_assoc]

/-- How many more parentheses are closed than opened. -/
def excess (cs : List Char) : Int :=
  cs.count ')' - cs.count '('

/-- The text behind the parenthesis of a call that is still open: as many parentheses are closed in it as
opened, each that is opened is also closed, and statements only end between two such. -/
structure AreArguments (cs : List Char) : Prop where
  balanced : excess cs = 0
  nested : ∀ before c behind, cs = before ++ c :: behind → (c = '(' ∨ endsStatement c = true) → 0 < excess behind

theorem excess_cons (c : Char) (cs : List Char) :
    excess (c :: cs) = excess cs + if c = ')' then 1 else if c = '(' then -1 else 0 := by
  unfold excess
  by_cases close : c = ')'
  · subst close
    rw [List.count_cons_self, List.count_cons_of_ne (by decide), if_pos rfl]
    omega
  · rw [if_neg close, List.count_cons_of_ne (Ne.symm close).symm]
    by_cases open_ : c = '('
    · subst open_
      rw [List.count_cons_self, if_pos rfl]
      omega
    · rw [List.count_cons_of_ne (Ne.symm open_).symm, if_neg open_]
      omega

theorem excess_reverse (cs : List Char) : excess cs.reverse = excess cs := by
  unfold excess
  rw [List.count_reverse, List.count_reverse]

/-- The same of text in reverse, with `depth` parentheses closed behind it. -/
structure ArePassed (depth : Int) (reversed : List Char) : Prop where
  balanced : depth + excess reversed = 0
  nested : ∀ behind c before, reversed = behind ++ c :: before → (c = '(' ∨ endsStatement c = true) →
    0 < depth + excess behind

theorem arePassed_reverse_iff {cs : List Char} : ArePassed 0 cs.reverse ↔ AreArguments cs := by
  constructor
  · rintro ⟨balanced, nested⟩
    constructor
    · rwa [excess_reverse, Int.zero_add] at balanced
    · intro before c behind parts marks
      have := nested behind.reverse c before.reverse (by simp [parts]) marks
      rwa [excess_reverse, Int.zero_add] at this
  · rintro ⟨balanced, nested⟩
    constructor
    · rwa [excess_reverse, Int.zero_add]
    · intro behind c before parts marks
      have := nested before.reverse c behind.reverse (by simpa using congrArg List.reverse parts) marks
      rwa [excess_reverse, ← Int.zero_add (excess behind)] at this

theorem arePassed_nil_iff {depth : Int} : ArePassed depth [] ↔ depth = 0 := by
  constructor
  · intro passed
    simpa [excess] using passed.balanced
  · rintro rfl
    exact ⟨rfl, fun behind c before parts _ => by simp at parts⟩

theorem arePassed_cons_iff {depth : Int} {c : Char} {cs : List Char} :
    ArePassed depth (c :: cs) ↔ (c = '(' ∨ endsStatement c = true → 0 < depth) ∧
      ArePassed (depth + excess [c]) cs := by
  have step (behind : List Char) : depth + excess (c :: behind) = depth + excess [c] + excess behind := by
    rw [excess_cons, excess_cons c []]
    simp only [excess, List.count_nil]
    omega
  constructor
  · rintro ⟨balanced, nested⟩
    refine ⟨?_, by rw [← step, balanced], ?_⟩
    · intro marks
      simpa [excess] using nested [] c cs rfl marks
    · intro behind d before parts marks
      rw [← step]
      exact nested (c :: behind) d before (by rw [parts, List.cons_append]) marks
  · rintro ⟨first, balanced, nested⟩
    refine ⟨by rw [step, balanced], ?_⟩
    intro behind d before parts marks
    cases behind with
    | nil =>
      obtain ⟨rfl, rfl⟩ := List.cons.inj parts
      simpa [excess] using first marks
    | cons e behind =>
      obtain ⟨rfl, rfl⟩ := List.cons.inj parts
      rw [step]
      exact nested behind d before rfl marks

/-- The parenthesis is the next character, or what is passed begins with that. -/
theorem exists_arePassed_cons_iff {depth : Int} {c : Char} {cs rest : List Char} :
    (∃ passed, c :: cs = passed ++ '(' :: rest ∧ ArePassed depth passed) ↔
      (c = '(' ∧ cs = rest ∧ depth = 0) ∨ ((c = '(' ∨ endsStatement c = true → 0 < depth) ∧
        ∃ passed, cs = passed ++ '(' :: rest ∧ ArePassed (depth + excess [c]) passed) := by
  constructor
  · rintro ⟨passed, parts, isPassed⟩
    cases passed with
    | nil =>
      obtain ⟨rfl, rfl⟩ := List.cons.inj parts
      exact Or.inl ⟨rfl, rfl, arePassed_nil_iff.1 isPassed⟩
    | cons d passed =>
      obtain ⟨rfl, rfl⟩ := List.cons.inj parts
      obtain ⟨marks, later⟩ := arePassed_cons_iff.1 isPassed
      exact Or.inr ⟨marks, passed, rfl, later⟩
  · rintro (⟨rfl, rfl, zero⟩ | ⟨marks, passed, rfl, later⟩)
    · exact ⟨[], rfl, arePassed_nil_iff.2 zero⟩
    · exact ⟨c :: passed, rfl, arePassed_cons_iff.2 ⟨marks, later⟩⟩

/-- Going back from `depth` closed parentheses leads to the parenthesis that is open behind them. -/
theorem openParenthesis?_eq_some_iff {depth commas : Nat} {cs rest : List Char} :
    (∃ n, openParenthesis? depth commas cs = some (n, rest)) ↔
      ∃ passed, cs = passed ++ '(' :: rest ∧ ArePassed depth passed := by
  induction cs generalizing depth commas with
  | nil => simp [openParenthesis?]
  | cons c cs ih =>
    rw [exists_arePassed_cons_iff, openParenthesis?]
    have change := excess_cons c []
    by_cases close : c = ')'
    · subst close
      have deeper : (depth : Int) + excess [')'] = (depth + 1 : Nat) := by rw [change]; rfl
      rw [if_pos rfl, ih, deeper]
      simp [endsStatement]
    rw [if_neg close]
    by_cases opens : c = '('
    · subst opens
      rw [if_pos rfl]
      by_cases zero : depth = 0
      · subst zero
        simp
      · have higher : (depth : Int) + excess ['('] = (depth - 1 : Nat) := by
          rw [change, if_neg close, if_pos rfl]
          simp only [excess, List.count_nil]
          omega
        rw [if_neg zero, ih, higher]
        have : 0 < depth := Nat.pos_of_ne_zero zero
        simp [zero, this]
    have same : (depth : Int) + excess [c] = depth := by
      rw [change, if_neg close, if_neg opens]
      simp [excess]
    rw [if_neg opens, same]
    by_cases ends : endsStatement c = true
    · have stops := endsStatement_iff.1 ends
      have other : c ≠ ',' := by rcases stops with rfl | rfl | rfl <;> decide
      by_cases zero : depth = 0
      · rw [if_neg (fun h => other h.2), if_pos ⟨zero, stops⟩]
        simp [opens, ends, zero]
      · have : 0 < depth := Nat.pos_of_ne_zero zero
        rw [if_neg (fun h => zero h.1), if_neg (fun h => zero h.1), ih]
        simp [opens, this]
    · have goes : ¬(depth = 0 ∧ (c = ';' ∨ c = '\x7b' ∨ c = '\x7d')) := fun h => ends (endsStatement_iff.2 h.2)
      rw [if_neg goes]
      split <;> simp [ih, opens, ends]

/-- The parenthesis that is open at the end of a text. -/
theorem openParenthesis?_reverse_eq_some_iff {cs front : List Char} :
    (∃ n, openParenthesis? 0 0 cs.reverse = some (n, front.reverse)) ↔
      ∃ arguments, cs = front ++ '(' :: arguments ∧ AreArguments arguments := by
  rw [openParenthesis?_eq_some_iff]
  constructor
  · rintro ⟨passed, parts, isPassed⟩
    refine ⟨passed.reverse, ?_, arePassed_reverse_iff.1 (by rwa [List.reverse_reverse])⟩
    simpa using congrArg List.reverse parts
  · rintro ⟨arguments, rfl, areArguments⟩
    exact ⟨arguments.reverse, by simp, arePassed_reverse_iff.2 areArguments⟩

/-! ## Names -/

/-- At the end of `before ++ name ++ blanks`, blanks aside, `name` is all that is an identifier. -/
structure IsNameBefore (before name blanks : List Char) : Prop where
  ident : ∀ c ∈ name, isIdentChar c = true
  blank : AreBlank blanks
  apart : ∀ c ∈ before.getLast?, isIdentChar c = false ∧ (name = [] → isBlank c = false)

/-- Every text ends in a name, which may be empty, and blanks. -/
theorem exists_isNameBefore (cs : List Char) :
    ∃ before name blanks, cs = before ++ (name ++ blanks) ∧ IsNameBefore before name blanks := by
  obtain ⟨blanks, whole, blank, last⟩ := exists_trimEnd cs
  have parts : trimEnd cs =
      trimEndWhile isIdentChar (trimEnd cs) ++ ((trimEnd cs).reverse.takeWhile isIdentChar).reverse := by
    rw [trimEndWhile, ← List.reverse_append, List.takeWhile_append_dropWhile, List.reverse_reverse]
  refine ⟨_, _, blanks, by rw [← List.append_assoc, ← parts, ← whole], ?_, blank, ?_⟩
  · intro c member
    exact List.mem_takeWhile_imp (List.mem_reverse.1 member)
  · intro c member
    constructor
    · exact getLast?_trimEndWhile member
    · intro empty
      rw [empty, List.append_nil] at parts
      rw [← parts] at member
      exact last c member

/-- Whether the last character, if there is one, is ASCII. -/
def endsInAscii (cs : List Char) : Bool :=
  cs.getLast?.all (·.toNat < 128)

theorem endsInAscii_iff {cs : List Char} : endsInAscii cs = true ↔ ∀ c ∈ cs.getLast?, c.toNat < 128 := by
  rw [endsInAscii, Option.all_eq_true]
  exact forall₂_congr fun c _ => decide_eq_true_iff

/-- The name, unless the character in front of it is not ASCII. -/
theorem nameBefore_eq {before name blanks : List Char} (isName : IsNameBefore before name blanks) :
    nameBefore (before ++ (name ++ blanks)).reverse =
      if endsInAscii before = true then .ok (String.ofList name) else .error .insideCharacter := by
  have noBlank : ∀ c ∈ (name.reverse ++ before.reverse).head?, isBlank c = false := by
    intro c member
    rw [List.head?_append, List.head?_reverse, List.head?_reverse] at member
    cases last : name.getLast? with
    | none =>
      rw [last] at member
      exact (isName.apart c member).2 (List.getLast?_eq_none_iff.1 last)
    | some d =>
      rw [last] at member
      obtain rfl : d = c := Option.some.inj member
      exact isBlank_of_isIdentChar (isName.ident d (List.mem_of_getLast? last))
  have trimmed : (before ++ (name ++ blanks)).reverse.dropWhile isBlank = name.reverse ++ before.reverse := by
    rw [List.reverse_append, List.reverse_append, List.append_assoc]
    exact trimStart_append (fun c member => isName.blank c (List.mem_reverse.1 member)) noBlank
  have ident : ∀ c ∈ name.reverse, isIdentChar c = true := fun c member => isName.ident c (List.mem_reverse.1 member)
  have front : before.reverse.dropWhile isIdentChar = before.reverse ∧ before.reverse.takeWhile isIdentChar = [] := by
    cases reversed : before.reverse with
    | nil => exact ⟨rfl, rfl⟩
    | cons c cs =>
      have member : c ∈ before.getLast? := by rw [← List.head?_reverse, reversed]; rfl
      have other : ¬isIdentChar c = true := by simp [(isName.apart c member).1]
      exact ⟨List.dropWhile_cons_of_neg other, List.takeWhile_cons_of_neg other⟩
  simp only [nameBefore, trimmed, List.dropWhile_append_of_pos ident, List.takeWhile_append_of_pos ident, front,
    List.append_nil, List.reverse_reverse, endsInAscii, ← List.head?_reverse]
  cases before.reverse with
  | nil => simp
  | cons c cs => simp

/-- The name is found unless the character in front of it is not ASCII. -/
theorem nameBefore_ok_iff {before name blanks : List Char} (isName : IsNameBefore before name blanks) :
    (∃ word, nameBefore (before ++ (name ++ blanks)).reverse = .ok word) ↔ ∀ c ∈ before.getLast?, c.toNat < 128 := by
  rw [nameBefore_eq isName, ← endsInAscii_iff]
  split
  · rename_i ascii
    exact iff_of_true ⟨_, rfl⟩ ascii
  · rename_i other
    refine iff_of_false ?_ other
    rintro ⟨word, found⟩
    cases found

/-! ## Calls -/

/-- The call that is open at the end of a text: its name, which may be empty, the blanks between the name and
the parenthesis, and its arguments. -/
structure IsOpenCall (cs before name blanks arguments : List Char) : Prop where
  parts : cs = (before ++ (name ++ blanks)) ++ '(' :: arguments
  isName : IsNameBefore before name blanks
  areArguments : AreArguments arguments

/-- There is an answer at an offset, which stands for the text up to the last boundary before it, if and only if
the character in front of the name of the open call, if there is one, is ASCII. -/
theorem at?_ok_iff (text : String) (offset : Nat) :
    slice? text 0 (floorBoundary text (min offset text.utf8ByteSize)) = some (upTo text offset) ∧
      ((∃ site?, at? text offset = .ok site?) ↔
        ∀ before name blanks arguments,
          IsOpenCall (Lexical.mask (upTo text offset)).toList before name blanks arguments →
          ∀ c ∈ before.getLast?, c.toNat < 128) := by
  constructor
  · exact slice?_upTo text offset
  · generalize masked : (Lexical.mask (upTo text offset)).toList = cs
    have answer (commas : Nat) (rest : List Char)
        (found : openParenthesis? 0 0 cs.reverse = some (commas, rest)) :
        (∃ site?, at? text offset = .ok site?) ↔ ∃ word, nameBefore rest = .ok word := by
      unfold at?
      simp only [masked, found]
      cases nameBefore rest with
      | ok word =>
        show (∃ site?, Except.ok _ = Except.ok site?) ↔ ∃ word', Except.ok word = Except.ok word'
        simp
      | error fault =>
        show (∃ site?, Except.error fault = Except.ok site?) ↔ ∃ word, Except.error fault = Except.ok word
        simp
    constructor
    · intro answered before name blanks arguments call
      obtain ⟨commas, found⟩ := openParenthesis?_reverse_eq_some_iff.2 ⟨arguments, call.parts, call.areArguments⟩
      exact (nameBefore_ok_iff call.isName).1 ((answer _ _ found).1 answered)
    · intro ascii
      cases found : openParenthesis? 0 0 cs.reverse with
      | none => exact ⟨none, by unfold at?; simp only [masked, found]⟩
      | some site =>
        obtain ⟨commas, rest⟩ := site
        obtain ⟨before, name, blanks, whole, isName⟩ := exists_isNameBefore rest.reverse
        have found' : openParenthesis? 0 0 cs.reverse = some (commas, (before ++ (name ++ blanks)).reverse) := by
          rw [← whole, List.reverse_reverse, found]
        obtain ⟨arguments, parts, areArguments⟩ := openParenthesis?_reverse_eq_some_iff.1 ⟨commas, found'⟩
        exact (answer _ _ found').2 ((nameBefore_ok_iff isName).2 (ascii _ _ _ _ ⟨parts, isName, areArguments⟩))

/-- The space of three bytes in front of the name would be cut behind its first one. -/
theorem at?_cuts_character : at? "\u3000foo(" 7 = .error .insideCharacter := by
  rfl

end ShaderAnalysis.CallSite
