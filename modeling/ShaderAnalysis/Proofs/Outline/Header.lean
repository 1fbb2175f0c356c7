import Mathlib.Data.List.TakeWhile
import ShaderAnalysis.Outline.Declaration
import ShaderAnalysis.Proofs.Scan.Reading
import ShaderAnalysis.Proofs.Text.Trim

/-!
# The parts of a function header

A header is its return type and its name with a gap between them, a list in parentheses without a closing one in
it, perhaps a semantic, and an opening brace (`isRead_functionHeader`). Each step of the scanner passes the
characters of one of these parts.
-/

namespace ShaderAnalysis

namespace Cursor

/-- The characters from one place to another. -/
structure Passes (c : Cursor) (cs : List Char) (d : Cursor) : Prop where
  chars : c.rest = cs ++ d.rest
  offset : d.offset = c.offset + Text.length8 cs

variable {c d e : Cursor} {as bs : List Char}

theorem Passes.trans (first : c.Passes as d) (second : d.Passes bs e) : c.Passes (as ++ bs) e where
  chars := by rw [first.chars, second.chars, List.append_assoc]
  offset := by rw [second.offset, first.offset, Text.length8_append, Nat.add_assoc]

theorem passes_of_isRun {l : Lexeme} (isRun : l.IsRun c d) : c.Passes l.text.toList d :=
  ⟨isRun.chars, isRun.offset⟩

end Cursor

namespace Scanner

open Cursor

variable {c d : Cursor}

theorem satisfy_passes {p : Char → Bool} {x : Char} (h : satisfy p c = some (x, d)) : p x = true ∧ c.Passes [x] d := by
  obtain ⟨xs, rest, satisfied, rfl⟩ := satisfy_eq_some h
  exact ⟨satisfied, rest, rfl⟩

theorem char_eq_some {x : Char} {u : Unit} (h : char x c = some (u, d)) : c.Passes [x] d := by
  obtain ⟨y, here⟩ := discard_eq_some h
  obtain ⟨isX, passes⟩ := satisfy_passes here
  have isX : y = x := by simpa using isX
  exact isX ▸ passes

theorem literal_eq_some {s : String} {u : Unit} (h : literal s c = some (u, d)) : c.Passes s.toList d := by
  obtain ⟨whole, rfl⟩ := chars_eq_some h
  exact ⟨whole, rfl⟩

theorem runAny_passes {p : Char → Bool} {l : Lexeme} (h : runAny p c = some (l, d)) :
    l.IsRun c d ∧ ∀ x ∈ l.text.toList, p x = true := by
  refine ⟨runAny_eq_some h, ?_⟩
  cases h
  intro x member
  rw [String.toList_ofList] at member
  exact List.mem_takeWhile_imp member

theorem blanks_eq_some {u : Unit} (h : blanks c = some (u, d)) : ∃ bs, Text.AreBlank bs ∧ c.Passes bs d := by
  obtain ⟨l, ran⟩ := discard_eq_some h
  obtain ⟨isRun, blank⟩ := runAny_passes ran
  exact ⟨_, blank, passes_of_isRun isRun⟩

theorem gap_eq_some {u : Unit} (h : gap c = some (u, d)) : ∃ bs, bs ≠ [] ∧ Text.AreBlank bs ∧ c.Passes bs d := by
  obtain ⟨l, ran⟩ := discard_eq_some h
  obtain ⟨nonempty, blank⟩ := text_of_run ran
  exact ⟨_, nonempty, blank, passes_of_isRun (run_eq_some ran).1⟩

theorem word_eq_some {w : Lexeme} (h : word c = some (w, d)) : w.IsRun c d ∧ Text.IsWord w.text.toList :=
  ⟨(run_eq_some h).1, text_of_run h⟩

theorem wordFromStart_eq_some {w : Lexeme} (h : wordFromStart c = some (w, d)) :
    c.atWordStart = true ∧ w.IsRun c d ∧ Text.IsWord w.text.toList := by
  obtain ⟨_, e, required, ran⟩ := bind_eq_some.1 h
  obtain ⟨isStart, same⟩ := require_eq_some required
  exact ⟨isStart, word_eq_some (same ▸ ran)⟩

end Scanner

namespace Outline

open Scanner Cursor

variable {c d : Cursor}

/-! ## Parts -/

/-- What may stand between a list of parameters and the brace: blanks, or a colon and a word among blanks. -/
inductive IsTail : List Char → Prop where
  | blank {bs : List Char} (blank : Text.AreBlank bs) : IsTail bs
  | semantic {before between word after : List Char} (blankBefore : Text.AreBlank before)
      (blankBetween : Text.AreBlank between) (isWord : Text.IsWord word) (blankAfter : Text.AreBlank after) :
      IsTail (before ++ ':' :: (between ++ (word ++ after)))

/-- The characters of a header between two places, part by part. -/
structure FunctionHeader.IsRead (h : FunctionHeader) (c d : Cursor) (gap blanks list tail : List Char) : Prop where
  chars : c.rest = h.returns.text.toList ++ (gap ++ (h.name.text.toList ++ (blanks ++ '(' :: (list ++ ')' ::
    (tail ++ '\x7b' :: d.rest)))))
  atStart : c.atWordStart = true
  isReturns : Text.IsWord h.returns.text.toList
  isGap : gap ≠ [] ∧ Text.AreBlank gap
  isName : Text.IsWord h.name.text.toList
  isBlank : Text.AreBlank blanks
  isList : ')' ∉ list
  isTail : IsTail tail
  isSemantic : ∀ s ∈ h.semantic, Text.IsWord s.text.toList
  returnsSpan : h.returns.span = .between c.offset (c.offset + Text.length8 h.returns.text.toList)
  nameStart : h.name.span.start = c.offset + Text.length8 (h.returns.text.toList ++ gap)
  listStart : h.params.start =
    c.offset + Text.length8 (h.returns.text.toList ++ (gap ++ (h.name.text.toList ++ (blanks ++ ['(']))))
  listStop : h.params.stop = h.params.start + Text.length8 list
  stop : d.offset = h.params.stop + Text.length8 (')' :: (tail ++ ['\x7b']))

theorem argumentText_eq_some {inner : Lexeme} (h : argumentText c = some (inner, d)) :
    ')' ∉ inner.text.toList ∧ c.Passes ('(' :: (inner.text.toList ++ [')'])) d ∧ inner.span.start = c.offset + 1 ∧
      inner.span.stop = inner.span.start + Text.length8 inner.text.toList := by
  obtain ⟨_, c₁, opened, h⟩ := bind_eq_some.1 h
  obtain ⟨l, c₂, ran, h⟩ := bind_eq_some.1 h
  obtain ⟨_, c₃, closed, h⟩ := bind_eq_some.1 h
  cases h
  obtain ⟨isRun, inside⟩ := runAny_passes ran
  have opening := char_eq_some opened
  refine ⟨fun member => ?_, ?_, ?_, ?_⟩
  · simpa using inside ')' member
  · exact (opening.trans (passes_of_isRun isRun)).trans (char_eq_some closed)
  · rw [isRun.span, Span.start_between, opening.offset]
    rfl
  · rw [isRun.span, Span.start_between, Span.stop_between, isRun.offset]
    omega

theorem semantic_eq_some {s : Lexeme} (h : semantic c = some (s, d)) :
    ∃ before between, Text.AreBlank before ∧ Text.AreBlank between ∧ Text.IsWord s.text.toList ∧
      c.Passes (before ++ ':' :: (between ++ s.text.toList)) d := by
  obtain ⟨_, c₁, blanks₁, h⟩ := bind_eq_some.1 h
  obtain ⟨_, c₂, colon, h⟩ := bind_eq_some.1 h
  obtain ⟨_, c₃, blanks₂, h⟩ := bind_eq_some.1 h
  obtain ⟨before, blankBefore, first⟩ := blanks_eq_some blanks₁
  obtain ⟨between, blankBetween, third⟩ := blanks_eq_some blanks₂
  obtain ⟨isRun, isWord⟩ := word_eq_some h
  refine ⟨before, between, blankBefore, blankBetween, isWord, ?_⟩
  exact first.trans ((char_eq_some colon).trans (third.trans (passes_of_isRun isRun)))

/-- A semantic, if there is one, and the blanks behind it. -/
theorem exists_tail {meaning : Option Lexeme} {between : Cursor} {u : Unit}
    (meant : optional semantic c = some (meaning, between)) (blanked : blanks between = some (u, d)) :
    ∃ tail, IsTail tail ∧ (∀ s ∈ meaning, Text.IsWord s.text.toList) ∧ c.Passes tail d := by
  obtain ⟨after, blankAfter, behind⟩ := blanks_eq_some blanked
  rcases optional_eq_some meant with ⟨s, rfl, found⟩ | ⟨rfl, rfl⟩
  · obtain ⟨before, between, blankBefore, blankBetween, isWord, first⟩ := semantic_eq_some found
    refine ⟨_, .semantic blankBefore blankBetween isWord blankAfter, fun s' is => ?_, ?_⟩
    · exact Option.some.inj is ▸ isWord
    · simpa only [List.append_assoc, List.cons_append] using first.trans behind
  · exact ⟨after, .blank blankAfter, (fun s is => by cases is), behind⟩

/-- What the scanner for function headers has read. -/
theorem isRead_functionHeader {h : FunctionHeader} (ran : functionHeader c = some (h, d)) :
    ∃ gap blanks list tail, h.IsRead c d gap blanks list tail := by
  obtain ⟨returns, c₁, returned, ran⟩ := bind_eq_some.1 ran
  obtain ⟨_, c₂, gapped, ran⟩ := bind_eq_some.1 ran
  obtain ⟨name, c₃, named, ran⟩ := bind_eq_some.1 ran
  obtain ⟨_, c₄, blanked, ran⟩ := bind_eq_some.1 ran
  obtain ⟨params, c₅, listed, ran⟩ := bind_eq_some.1 ran
  obtain ⟨meaning, c₆, meant, ran⟩ := bind_eq_some.1 ran
  obtain ⟨_, c₇, blanked', ran⟩ := bind_eq_some.1 ran
  obtain ⟨_, c₈, opened, ran⟩ := bind_eq_some.1 ran
  cases ran
  obtain ⟨atStart, isReturns, returnsWord⟩ := wordFromStart_eq_some returned
  obtain ⟨gap, nonempty, blankGap, second⟩ := gap_eq_some gapped
  obtain ⟨isName, nameWord⟩ := word_eq_some named
  obtain ⟨blanks, blank, fourth⟩ := blanks_eq_some blanked
  obtain ⟨noClose, fifth, start, stop⟩ := argumentText_eq_some listed
  obtain ⟨tail, isTail, isSemantic, behind⟩ := exists_tail meant blanked'
  have first := passes_of_isRun isReturns
  have third := passes_of_isRun isName
  have last := char_eq_some opened
  refine ⟨gap, blanks, params.text.toList, tail, ?_⟩
  exact
    { chars := by
        rw [first.chars, second.chars, third.chars, fourth.chars, fifth.chars, behind.chars, last.chars]
        simp only [List.cons_append, List.append_assoc, List.nil_append]
      atStart
      isReturns := returnsWord
      isGap := ⟨nonempty, blankGap⟩
      isName := nameWord
      isBlank := blank
      isList := noClose
      isTail
      isSemantic
      returnsSpan := by rw [isReturns.span, first.offset]
      nameStart := by
        show name.span.start = c.offset + Text.length8 (returns.text.toList ++ gap)
        rw [isName.span, Span.start_between, second.offset, first.offset, Text.length8_append]
        omega
      listStart := by
        show params.span.start = _
        rw [start, fourth.offset, third.offset, second.offset, first.offset]
        simp only [Text.length8_append, Nat.add_assoc]
        rfl
      listStop := stop
      stop := by
        show _ = params.span.stop + _
        rw [last.offset, behind.offset, fifth.offset, stop, start]
        simp only [Text.length8, Text.length8_append]
        have close : Char.utf8Size ')' = 1 := rfl
        have paren : Char.utf8Size '(' = 1 := rfl
        omega }

end Outline

end ShaderAnalysis
