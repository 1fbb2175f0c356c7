import ShaderAnalysis.Proofs.Lexical.Enclosing
import ShaderAnalysis.Proofs.Outline.Code
import ShaderAnalysis.Proofs.Scan.Running

/-!
# The type in front of a name

In plain code a name has its type in front of it: a word, perhaps an element type in angle brackets, and a gap. Going
back from a name, `Outline.typeWord` comes to this word, whatever scanner has read the name; so the word depends on
nothing but the text and the place. Each scanner finds its name behind its type in this way (`Cursor.Types`), and the
word is the type that it has read (`Cursor.Types.typeWord`).
-/

namespace ShaderAnalysis

namespace Outline

/-- Characters in reverse, behind an element type in angle brackets if they start with one. -/
def skipElement (back : List Char) : List Char :=
  if back.head? = some '>' then Text.trimStart (back.dropWhile (· != '<')).tail else back

/-- The word in front of what stands at `offset`, with nothing but blanks and an element type in between. -/
def typeWord (text : String) (offset : Nat) : String :=
  let back := Text.trimStart (Text.slice text (.between 0 offset)).toList.reverse
  String.ofList ((skipElement back).takeWhile Text.isWordChar).reverse

/-- What may stand between a type and a name: a gap, in front of it perhaps an element type in angle brackets. -/
inductive IsBetween : List Char → Prop where
  | gap {gap : List Char} (isGap : Scanner.IsGap gap) : IsBetween gap
  | element {before inner gap : List Char} (blank : Text.AreBlank before)
      (isInner : ∀ x ∈ inner, Text.isBlank x = true ∨ Text.isWordChar x = true) (isGap : Scanner.IsGap gap) :
      IsBetween (before ++ '<' :: (inner ++ '>' :: gap))

theorem IsBetween.isPlain {cs : List Char} (isBetween : IsBetween cs) : ∀ c ∈ cs, Brackets.IsPlain c := by
  intro c member
  cases isBetween with
  | gap isGap => exact Brackets.isPlain_of_isBlank (isGap.2 c member)
  | element blank isInner isGap =>
    simp only [List.mem_append, List.mem_cons] at member
    rcases member with inFront | rfl | inInner | rfl | inGap
    · exact Brackets.isPlain_of_isBlank (blank c inFront)
    · exact ⟨by decide, by decide, by decide, by decide⟩
    · exact (isInner c inInner).elim Brackets.isPlain_of_isBlank Brackets.isPlain_of_isWordChar
    · exact ⟨by decide, by decide, by decide, by decide⟩
    · exact Brackets.isPlain_of_isBlank (isGap.2 c inGap)

/-- Characters that end no word. -/
def EndsApart (cs : List Char) : Prop :=
  ∀ x ∈ cs.getLast?, Text.isWordChar x = false

theorem EndsApart.append {cs ds : List Char} (first : EndsApart cs) (second : EndsApart ds) : EndsApart (cs ++ ds) := by
  intro x isLast
  rw [List.getLast?_append, Option.mem_def, Option.or_eq_some_iff] at isLast
  rcases isLast with last | ⟨-, last⟩
  · exact second x last
  · exact first x last

theorem EndsApart.append_blank {cs gap : List Char} (isGap : Scanner.IsGap gap) : EndsApart (cs ++ gap) := by
  intro x isLast
  rw [List.getLast?_append_of_ne_nil _ isGap.1] at isLast
  exact Text.isWordChar_of_isBlank (isGap.2 x (List.mem_of_getLast? isLast))

theorem endsApart_of_areBlank {cs : List Char} (blank : Text.AreBlank cs) : EndsApart cs :=
  fun x isLast => Text.isWordChar_of_isBlank (blank x (List.mem_of_getLast? isLast))

/-! ## Going back from a name -/

section

variable {type between gap : List Char}

theorem reverse_word (isWord : Text.IsWord type) : ∀ x ∈ type.reverse, Text.isWordChar x = true :=
  fun x member => isWord.2 x (List.mem_reverse.1 member)

theorem trimStart_reverse_append {front : List Char} (blank : Text.AreBlank gap) (ends : Text.Ends Text.isBlank front) :
    Text.trimStart (gap.reverse ++ front) = front :=
  Text.dropWhile_append_of_ends (fun x member => blank x (List.mem_reverse.1 member)) ends

theorem takeWhile_reverse_word {front : List Char} (isWord : Text.IsWord type) (apart : EndsApart front) :
    (type.reverse ++ front.reverse).takeWhile Text.isWordChar = type.reverse := by
  refine Text.takeWhile_append_of_ends (reverse_word isWord) fun x isHead => ?_
  rw [List.head?_reverse] at isHead
  exact apart x isHead

theorem ends_reverse_word {front : List Char} (isWord : Text.IsWord type) :
    Text.Ends Text.isBlank (type.reverse ++ front) := by
  refine Text.Ends.append (by simpa using isWord.1) fun x isHead => ?_
  exact Text.isBlank_of_isWordChar (reverse_word isWord x (List.mem_of_mem_head? isHead))

/-- A word is no closing angle bracket. -/
theorem skipElement_word {front : List Char} (isWord : Text.IsWord type) :
    skipElement (type.reverse ++ front) = type.reverse ++ front := by
  rw [skipElement, if_neg]
  rw [List.head?_append_of_ne_nil _ (by simpa using isWord.1)]
  intro closes
  have := reverse_word isWord '>' (List.mem_of_mem_head? closes)
  exact absurd this (by decide)

theorem skipElement_element {inner front : List Char}
    (isInner : ∀ x ∈ inner, Text.isBlank x = true ∨ Text.isWordChar x = true) :
    skipElement ('>' :: (inner.reverse ++ '<' :: front)) = Text.trimStart front := by
  have all : ∀ x ∈ '>' :: inner.reverse, (x != '<') = true := by
    intro x member
    rw [bne_iff_ne]
    rintro rfl
    rcases List.mem_cons.1 member with is | member
    · exact absurd is (by decide)
    · rcases isInner '<' (List.mem_reverse.1 member) with blank | isWord
      · exact absurd blank (by decide)
      · exact absurd isWord (by decide)
  have dropped : ('>' :: (inner.reverse ++ '<' :: front)).dropWhile (· != '<') = '<' :: front := by
    rw [← List.cons_append]
    exact Text.dropWhile_append_of_ends all (Text.ends_cons (by decide))
  rw [skipElement, List.head?_cons, if_pos rfl, dropped, List.tail_cons]

/-- The word in front of a name is the type that stands there. -/
theorem typeWord_eq {text : String} {front after : List Char} (isWord : Text.IsWord type)
    (isBetween : IsBetween between) (apart : EndsApart front)
    (chars : text.toList = front ++ (type ++ (between ++ after))) :
    typeWord text (Text.length8 (front ++ (type ++ between))) = String.ofList type := by
  have cut : text.toList = (front ++ (type ++ between)) ++ after := by
    rw [chars]
    simp only [List.append_assoc]
  have back : typeWord text (Text.length8 (front ++ (type ++ between))) =
      String.ofList ((skipElement (Text.trimStart (between.reverse ++ (type.reverse ++ front.reverse)))).takeWhile
        Text.isWordChar).reverse := by
    rw [typeWord, Text.slice_to cut, String.toList_ofList]
    simp only [List.reverse_append, List.append_assoc]
  have word : ((type.reverse ++ front.reverse).takeWhile Text.isWordChar).reverse = type := by
    rw [takeWhile_reverse_word isWord apart, List.reverse_reverse]
  rw [back]
  cases isBetween with
  | gap isGap => rw [trimStart_reverse_append isGap.2 (ends_reverse_word isWord), skipElement_word isWord, word]
  | @element before inner gap blank isInner isGap =>
    have parts : (before ++ '<' :: (inner ++ '>' :: gap)).reverse ++ (type.reverse ++ front.reverse) =
        gap.reverse ++ '>' :: (inner.reverse ++ '<' :: (before.reverse ++ (type.reverse ++ front.reverse))) := by
      simp only [List.reverse_append, List.reverse_cons, List.append_assoc, List.cons_append, List.nil_append]
    rw [parts, trimStart_reverse_append isGap.2 (Text.ends_cons (by decide)), skipElement_element isInner,
      trimStart_reverse_append blank (ends_reverse_word isWord), word]

end

end Outline

/-! ## Types and names in front of a cursor -/

/-- From the cursor on stand some characters, the type, what may follow it, and a word that starts at `start`. -/
structure Cursor.HasType (c : Cursor) (lead : List Char) (type : Lexeme) (between : List Char) (first : Char)
    (after : List Char) (start : Nat) : Prop where
  chars : c.rest = lead ++ (type.text.toList ++ (between ++ first :: after))
  apart : ∀ x ∈ lead.getLast?.or c.before, Text.isWordChar x = false
  isWord : Text.IsWord type.text.toList
  isBetween : Outline.IsBetween between
  isFirst : Text.isWordChar first = true
  typeStart : type.span.start = c.offset + Text.length8 lead
  nameStart : start = type.span.start + Text.length8 (type.text.toList ++ between)

/-- Somewhere from the cursor on, the word that starts at `start` stands behind the type. -/
def Cursor.Types (c : Cursor) (type : Lexeme) (start : Nat) : Prop :=
  ∃ lead between first after, c.HasType lead type between first after start

namespace Cursor

variable {c c₀ c₁ c₂ c₃ : Cursor} {type name : Lexeme} {lead between : List Char} {start : Nat}

theorem hasType_of_passes (before : c.Passes lead c₀)
    (apart : ∀ x ∈ lead.getLast?.or c.before, Text.isWordChar x = false)
    (isType : type.IsRun c₀ c₁ ∧ Text.IsWord type.text.toList) (behind : c₁.Passes between c₂)
    (isBetween : Outline.IsBetween between) (isName : name.IsRun c₂ c₃ ∧ Text.IsWord name.text.toList) :
    ∃ first after, c.HasType lead type between first after name.span.start := by
  obtain ⟨first, more, isFirst⟩ := List.exists_cons_of_ne_nil isName.2.1
  refine ⟨first, more ++ c₃.rest, ?_, apart, isType.2, isBetween, ?_, ?_, ?_⟩
  · rw [before.chars, isType.1.chars, behind.chars, isName.1.chars, isFirst, List.cons_append]
  · exact isName.2.2 first (isFirst ▸ List.mem_cons_self)
  · rw [isType.1.span, Span.start_between, before.offset]
  · rw [isName.1.span, isType.1.span, Span.start_between, Span.start_between, behind.offset, isType.1.offset,
      Text.length8_append, Nat.add_assoc]

theorem types_of_passes (before : c.Passes lead c₀) (apart : ∀ x ∈ lead.getLast?.or c.before, Text.isWordChar x = false)
    (isType : type.IsRun c₀ c₁ ∧ Text.IsWord type.text.toList) (behind : c₁.Passes between c₂)
    (isBetween : Outline.IsBetween between) (isName : name.IsRun c₂ c₃ ∧ Text.IsWord name.text.toList) :
    c.Types type name.span.start := by
  obtain ⟨first, after, hasType⟩ := hasType_of_passes before apart isType behind isBetween isName
  exact ⟨lead, between, first, after, hasType⟩

/-- The cursor is at a place of the text and knows the character in front of it, at least if that ends a word. -/
def StandsIn (c : Cursor) (text : String) : Prop :=
  ∃ front back, text.toList = front ++ (c.rest ++ back) ∧ c.offset = Text.length8 front ∧
    ∀ x ∈ front.getLast?, Text.isWordChar x = true → c.before = some x

/-- What a cursor in a text has in front of it, seen from the start of the text. -/
theorem StandsIn.types {text : String} (stands : c.StandsIn text) (types : c.Types type start) :
    (Cursor.ofText text 0).Types type start := by
  obtain ⟨front, back, place, offset, before⟩ := stands
  obtain ⟨lead, between, first, after, h⟩ := types
  refine ⟨front ++ lead, between, first, after ++ back, ?_, ?_, h.isWord, h.isBetween, h.isFirst, ?_, h.nameStart⟩
  · show text.toList = _
    rw [place, h.chars]
    simp only [List.append_assoc, List.cons_append]
  · intro x isLast
    have apart := h.apart x
    rw [ofText, Option.or_none, List.getLast?_append, Option.mem_def, Option.or_eq_some_iff] at isLast
    rcases isLast with last | ⟨none, last⟩
    · exact apart (by rw [last]; rfl)
    · rw [none, Option.none_or] at apart
      rw [← Bool.not_eq_true]
      intro isChar
      exact Bool.false_ne_true ((apart (before x last isChar)).symm.trans isChar)
  · rw [h.typeStart, offset, ofText, Text.length8_append, Nat.zero_add]

/-- A word does not begin in front of the cursor. -/
theorem apart_of_atWordStart (isStart : c.atWordStart = true) : ∀ x ∈ c.before, Text.isWordChar x = false := by
  intro x isBefore
  rw [atWordStart, Option.mem_def.1 isBefore, Option.all_some, Bool.not_eq_true'] at isStart
  exact isStart

theorem Types.typeWord {text : String} (types : (Cursor.ofText text 0).Types type start) :
    Outline.typeWord text start = type.text := by
  obtain ⟨front, between, first, after, h⟩ := types
  have apart : Outline.EndsApart front := by
    intro x isLast
    exact h.apart x (by rw [Option.mem_def.1 isLast]; rfl)
  have length : start = Text.length8 (front ++ (type.text.toList ++ between)) := by
    rw [h.nameStart, h.typeStart, ofText, Nat.zero_add, Text.length8_append front]
  rw [length, Outline.typeWord_eq h.isWord h.isBetween apart h.chars, String.ofList_toList]

end Cursor

namespace Scanner

open Cursor

variable {α β : Type} {c d : Cursor}

/-! ## What is found in a span -/

/-- In front of the span no word ends. -/
def StartsApart (text : String) (span : Span) : Prop :=
  ∀ front back, text.toList = front ++ back → span.start = Text.length8 front → Outline.EndsApart front

theorem startsApart_zero {text : String} {span : Span} (start : span.start = 0) : StartsApart text span := by
  intro front back _ length x isLast
  cases front with
  | nil => cases isLast
  | cons y front =>
    have : 0 < Text.length8 (y :: front) := Text.length8_pos
    omega

/-- A scanner that has found something in a span has run at a place of the text. -/
theorem exists_place_of_mem_findAll {s : Scanner α} {text : String} {span : Span} {found : Found α}
    (h : found ∈ s.findAll (.ofSpan text span)) (apart : StartsApart text span) :
    ∃ c d, c.StandsIn text ∧ s c = some (found.value, d) ∧ found.span = .between c.offset d.offset := by
  obtain ⟨skipped, rest, d, chars, -, ran, is⟩ := exists_place_of_mem_findFrom h
  obtain ⟨front, back, place, start, -⟩ := Text.exists_append_of_slice (slice_ne_empty_of_mem_findAll h)
  refine ⟨_, d, ⟨front ++ skipped, back, ?_, ?_, ?_⟩, ran, is⟩
  · have : (Text.slice text span).toList = skipped ++ rest := chars
    rw [place, this, Cursor.past]
    simp only [List.append_assoc]
  · rw [Cursor.past, Text.length8_append, ← start]
    rfl
  · intro x isLast isChar
    rw [List.getLast?_append, Option.mem_def, Option.or_eq_some_iff] at isLast
    rcases isLast with last | ⟨-, last⟩
    · rw [Cursor.past, last]
      rfl
    · exact absurd (isChar.symm.trans (apart front _ place start x last)) (Bool.false_ne_true ·.symm)

/-- What one run of the scanner says of type and name holds of all that is found. -/
theorem types_of_mem_findAll {s : Scanner α} {type name : α → Lexeme}
    (reads : ∀ c a d, s c = some (a, d) → c.Types (type a) (name a).span.start) {text : String} {span : Span}
    {found : Found α} (h : found ∈ s.findAll (.ofSpan text span)) (apart : StartsApart text span) :
    (Cursor.ofText text 0).Types (type found.value) (name found.value).span.start := by
  obtain ⟨c, d, stands, ran, -⟩ := exists_place_of_mem_findAll h apart
  exact stands.types (reads c _ d ran)

/-! ## Scanners -/

theorem isGap_of_gap {u : Unit} (h : gap c = some (u, d)) : ∃ bs, IsGap bs ∧ c.Passes bs d := by
  obtain ⟨bs, nonempty, blank, passes⟩ := gap_eq_some h
  exact ⟨bs, ⟨nonempty, blank⟩, passes⟩

/-- A type at the start of a word, a gap and a name. -/
theorem types_of_gap {type name : Lexeme} {c₁ c₂ c₃ : Cursor} {u : Unit} (first : wordFromStart c = some (type, c₁))
    (second : gap c₁ = some (u, c₂)) (third : word c₂ = some (name, c₃)) : c.Types type name.span.start := by
  obtain ⟨isStart, isType⟩ := wordFromStart_eq_some first
  obtain ⟨bs, isGap, behind⟩ := isGap_of_gap second
  exact types_of_passes (passes_refl c) (apart_of_atWordStart isStart) isType behind (.gap isGap) (word_eq_some third)

end Scanner

namespace Outline

open Scanner Cursor

variable {c d : Cursor}

/-- Where the scanner has a keyword in front of the name. -/
theorem types_structHeader {name : Lexeme} (ran : structHeader c = some (name, d)) :
    ∃ keyword, keyword.text = "struct" ∧ c.Types keyword name.span.start := by
  obtain ⟨keyword, c₁, first, ran⟩ := bind_eq_some.1 ran
  obtain ⟨_, c₂, guarded, ran⟩ := bind_eq_some.1 ran
  obtain ⟨isStruct, same⟩ := guard_eq_some guarded
  obtain ⟨_, c₃, second, ran⟩ := bind_eq_some.1 ran
  obtain ⟨name', c₄, third, ran⟩ := bind_eq_some.1 ran
  obtain ⟨_, c₅, -, ran⟩ := bind_eq_some.1 ran
  obtain ⟨_, c₆, -, ran⟩ := bind_eq_some.1 ran
  cases ran
  exact ⟨keyword, by simpa using isStruct, types_of_gap first (same ▸ second) third⟩

theorem types_bufferHeader {h : Lexeme × Lexeme} (ran : bufferHeader c = some (h, d)) :
    (h.1.text = "cbuffer" ∨ h.1.text = "tbuffer") ∧ c.Types h.1 h.2.span.start := by
  obtain ⟨keyword, c₁, first, ran⟩ := bind_eq_some.1 ran
  obtain ⟨_, c₂, guarded, ran⟩ := bind_eq_some.1 ran
  obtain ⟨isBuffer, same⟩ := guard_eq_some guarded
  obtain ⟨_, c₃, second, ran⟩ := bind_eq_some.1 ran
  obtain ⟨name, c₄, third, ran⟩ := bind_eq_some.1 ran
  obtain ⟨_, c₅, -, ran⟩ := bind_eq_some.1 ran
  obtain ⟨_, c₆, -, ran⟩ := bind_eq_some.1 ran
  obtain ⟨_, c₇, -, ran⟩ := bind_eq_some.1 ran
  cases ran
  exact ⟨by simpa using isBuffer, types_of_gap first (same ▸ second) third⟩

theorem types_structMember {m : Declarator} (ran : structMember c = some (m, d)) :
    c.Types m.type m.name.span.start := by
  obtain ⟨type, c₁, first, ran⟩ := bind_eq_some.1 ran
  obtain ⟨_, c₂, second, ran⟩ := bind_eq_some.1 ran
  obtain ⟨name, c₃, third, ran⟩ := bind_eq_some.1 ran
  obtain ⟨size, c₄, -, ran⟩ := bind_eq_some.1 ran
  obtain ⟨meaning, c₅, -, ran⟩ := bind_eq_some.1 ran
  obtain ⟨size', c₆, -, ran⟩ := bind_eq_some.1 ran
  obtain ⟨_, c₇, -, ran⟩ := bind_eq_some.1 ran
  obtain ⟨_, c₈, -, ran⟩ := bind_eq_some.1 ran
  cases ran
  exact types_of_gap first second third

theorem types_bufferMember {m : Declarator} (ran : bufferMember c = some (m, d)) :
    c.Types m.type m.name.span.start := by
  obtain ⟨type, c₁, first, ran⟩ := bind_eq_some.1 ran
  obtain ⟨_, c₂, second, ran⟩ := bind_eq_some.1 ran
  obtain ⟨name, c₃, third, ran⟩ := bind_eq_some.1 ran
  obtain ⟨size, c₄, -, ran⟩ := bind_eq_some.1 ran
  obtain ⟨_, c₅, -, ran⟩ := bind_eq_some.1 ran
  obtain ⟨_, c₆, -, ran⟩ := bind_eq_some.1 ran
  obtain ⟨_, c₇, -, ran⟩ := bind_eq_some.1 ran
  obtain ⟨_, c₈, -, ran⟩ := bind_eq_some.1 ran
  cases ran
  exact types_of_gap first second third

theorem types_localDeclaration {l : Declarator} (ran : localDeclaration c = some (l, d)) :
    c.Types l.type l.name.span.start := by
  obtain ⟨type, c₁, first, ran⟩ := bind_eq_some.1 ran
  obtain ⟨_, c₂, second, ran⟩ := bind_eq_some.1 ran
  obtain ⟨name, c₃, third, ran⟩ := bind_eq_some.1 ran
  obtain ⟨_, c₄, -, ran⟩ := bind_eq_some.1 ran
  obtain ⟨_, c₅, -, ran⟩ := bind_eq_some.1 ran
  obtain ⟨_, c₆, -, ran⟩ := bind_eq_some.1 ran
  cases ran
  exact types_of_gap first second third

/-- A gap ends no word, whatever is in front of it. -/
theorem apart_of_isGap {cs gap : List Char} (isGap : IsGap gap) (before : Option Char) :
    ∀ x ∈ (cs ++ gap).getLast?.or before, Text.isWordChar x = false := by
  intro x isLast
  refine @EndsApart.append_blank cs gap isGap x ?_
  rw [List.getLast?_append_of_ne_nil _ isGap.1, List.getLast?_eq_getLast_of_ne_nil isGap.1] at isLast ⊢
  exact isLast

/-- In front of the type stands the keyword, with a gap behind it. -/
theorem hasType_groupVariable {v : Declarator} (ran : groupVariable c = some (v, d)) :
    ∃ lead between first after, c.HasType lead v.type between first after v.name.span.start ∧
      ∀ x ∈ lead, Text.isBlank x = true ∨ Text.isWordChar x = true := by
  obtain ⟨keyword, c₁, first, ran⟩ := bind_eq_some.1 ran
  obtain ⟨_, c₂, guarded, ran⟩ := bind_eq_some.1 ran
  obtain ⟨_, c₃, second, ran⟩ := bind_eq_some.1 ran
  obtain ⟨type, c₄, third, ran⟩ := bind_eq_some.1 ran
  obtain ⟨_, c₅, fourth, ran⟩ := bind_eq_some.1 ran
  obtain ⟨name, c₆, fifth, ran⟩ := bind_eq_some.1 ran
  obtain ⟨size, c₇, -, ran⟩ := bind_eq_some.1 ran
  obtain ⟨size', c₈, -, ran⟩ := bind_eq_some.1 ran
  obtain ⟨_, c₉, -, ran⟩ := bind_eq_some.1 ran
  obtain ⟨_, c₁₀, -, ran⟩ := bind_eq_some.1 ran
  cases ran
  obtain ⟨-, isKeyword, isWord⟩ := wordFromStart_eq_some first
  obtain ⟨-, same⟩ := guard_eq_some guarded
  obtain ⟨gap, isGap, behind⟩ := isGap_of_gap (same ▸ second)
  obtain ⟨between, isGap', behind'⟩ := isGap_of_gap fourth
  obtain ⟨x, after, hasType⟩ := hasType_of_passes ((passes_of_isRun isKeyword).trans behind) (apart_of_isGap isGap _)
    (word_eq_some third) behind' (.gap isGap') (word_eq_some fifth)
  refine ⟨_, between, x, after, hasType, fun y member => ?_⟩
  rcases List.mem_append.1 member with inKeyword | inGap
  · exact .inr (isWord.2 y inKeyword)
  · exact .inl (isGap.2 y inGap)

theorem types_groupVariable {v : Declarator} (ran : groupVariable c = some (v, d)) :
    c.Types v.type v.name.span.start := by
  obtain ⟨lead, between, first, after, hasType, -⟩ := hasType_groupVariable ran
  exact ⟨lead, between, first, after, hasType⟩

/-! ### Resources -/

/-- An element type consists of word characters, with blanks around them. -/
theorem elementType_eq_some {element : Lexeme} (ran : elementType c = some (element, d)) :
    ∃ before inner, Text.AreBlank before ∧ (∀ x ∈ inner, Text.isBlank x = true ∨ Text.isWordChar x = true) ∧
      c.Passes (before ++ '<' :: (inner ++ ['>'])) d := by
  obtain ⟨_, c₁, first, ran⟩ := bind_eq_some.1 ran
  obtain ⟨_, c₂, second, ran⟩ := bind_eq_some.1 ran
  obtain ⟨_, c₃, third, ran⟩ := bind_eq_some.1 ran
  obtain ⟨element', c₄, fourth, ran⟩ := bind_eq_some.1 ran
  obtain ⟨_, c₅, fifth, ran⟩ := bind_eq_some.1 ran
  obtain ⟨_, c₆, sixth, ran⟩ := bind_eq_some.1 ran
  cases ran
  obtain ⟨before, blankBefore, passes⟩ := blanks_eq_some first
  obtain ⟨front, blankFront, passes'⟩ := blanks_eq_some third
  obtain ⟨isElement, isWord⟩ := word_eq_some fourth
  obtain ⟨behind, blankBehind, passes''⟩ := blanks_eq_some fifth
  refine ⟨before, front ++ (element.text.toList ++ behind), blankBefore, fun x member => ?_, ?_⟩
  · rcases List.mem_append.1 member with inFront | member
    · exact .inl (blankFront x inFront)
    · rcases List.mem_append.1 member with inWord | inBehind
      · exact .inr (isWord.2 x inWord)
      · exact .inl (blankBehind x inBehind)
  · have := passes.trans ((char_eq_some second).trans (passes'.trans ((passes_of_isRun isElement).trans
      (passes''.trans (char_eq_some sixth)))))
    simpa only [List.append_assoc, List.cons_append, List.nil_append] using this

/-- A resource starts with its type. -/
theorem types_resourceDeclaration {types : List String} {r : ResourceDeclaration}
    (ran : resourceDeclaration types c = some (r, d)) :
    types.contains r.type.text = true ∧ r.type.span.start = c.offset ∧ c.Types r.type r.name.span.start := by
  obtain ⟨type, c₁, first, ran⟩ := bind_eq_some.1 ran
  obtain ⟨_, c₂, guarded, ran⟩ := bind_eq_some.1 ran
  obtain ⟨element, c₃, second, ran⟩ := bind_eq_some.1 ran
  obtain ⟨name, c₄, named, ran⟩ := bind_eq_some.1 ran
  cases ran
  obtain ⟨isOne, same⟩ := guard_eq_some guarded
  obtain ⟨_, c₅, third, named⟩ := bind_eq_some.1 named
  obtain ⟨name', c₆, fourth, named⟩ := bind_eq_some.1 named
  obtain ⟨_, c₇, -, named⟩ := bind_eq_some.1 named
  obtain ⟨_, c₈, -, named⟩ := bind_eq_some.1 named
  obtain ⟨_, c₉, -, named⟩ := bind_eq_some.1 named
  cases named
  obtain ⟨isStart, isType⟩ := wordFromStart_eq_some first
  obtain ⟨gap, isGap, behind⟩ := isGap_of_gap third
  refine ⟨isOne, by rw [isType.1.span, Span.start_between], ?_⟩
  have apart := apart_of_atWordStart isStart
  have isName := word_eq_some fourth
  rcases optional_eq_some (same ▸ second) with ⟨e, rfl, isElement⟩ | ⟨rfl, rfl⟩
  · obtain ⟨before, inner, blank, isInner, passes⟩ := elementType_eq_some isElement
    have between := passes.trans behind
    simp only [List.append_assoc, List.cons_append, List.nil_append] at between
    exact types_of_passes (passes_refl c) apart isType between (.element blank isInner isGap) isName
  · exact types_of_passes (passes_refl c) apart isType behind (.gap isGap) isName

/-! ### Global variables -/

theorem areBlank_of_spaces {cs : List Char} (all : ∀ x ∈ cs, (x == ' ' || x == '\t') = true) : Text.AreBlank cs := by
  intro x member
  have := all x member
  rw [Bool.or_eq_true, beq_iff_eq, beq_iff_eq] at this
  rcases this with rfl | rfl <;> decide

theorem spaces_eq_some {u : Unit} (h : spaces c = some (u, d)) : ∃ bs, Text.AreBlank bs ∧ c.Passes bs d := by
  obtain ⟨l, ran⟩ := discard_eq_some h
  obtain ⟨isRun, all⟩ := runAny_passes ran
  exact ⟨_, areBlank_of_spaces all, passes_of_isRun isRun⟩

theorem isGap_of_spaceGap {u : Unit} (h : spaceGap c = some (u, d)) : ∃ bs, IsGap bs ∧ c.Passes bs d := by
  obtain ⟨l, ran⟩ := discard_eq_some h
  obtain ⟨nonempty, all⟩ := text_of_run ran
  exact ⟨l.text.toList, ⟨nonempty, areBlank_of_spaces all⟩, passes_of_isRun (run_eq_some ran).1⟩

theorem row_of_globalWords? {row modifiers : List Lexeme} {type name : Lexeme}
    (h : globalWords? row = some (modifiers, type, name)) : row = modifiers ++ [type, name] := by
  fun_induction globalWords? row generalizing modifiers with
  | case1 =>
    cases h
    rfl
  | case2 modifier rest _ _ ih =>
    obtain ⟨⟨_, type', name'⟩, found, same⟩ := Option.map_eq_some_iff.1 h
    cases same
    rw [ih found, List.cons_append]
  | case3 => cases h
  | case4 => cases h

/-- A row goes on behind a gap, or ends with its first word. -/
theorem cases_of_wordsWithin {gap : Scanner Unit} {fuel : Nat} {w : Lexeme} {more : List Lexeme}
    (ran : wordsWithin gap fuel c = some (w :: more, d)) :
    ∃ c₁, word c = some (w, c₁) ∧ (more = [] ∨
      ∃ u c₂ fuel', gap c₁ = some (u, c₂) ∧ wordsWithin gap fuel' c₂ = some (more, d)) := by
  cases fuel with
  | zero => cases ran
  | succ fuel =>
    obtain ⟨w', c₁, first, ran⟩ := bind_eq_some.1 ran
    obtain ⟨rest, c₂, second, ran⟩ := bind_eq_some.1 ran
    cases ran
    refine ⟨c₁, first, ?_⟩
    rcases optional_eq_some second with ⟨row, rfl, further⟩ | ⟨rfl, -⟩
    · obtain ⟨u, c₃, gapped, further⟩ := bind_eq_some.1 further
      exact .inr ⟨u, c₃, fuel, gapped, further⟩
    · exact .inl rfl

/-- In a row of words, each word but the first stands behind a gap. -/
theorem passes_of_wordsWithin {modifiers : List Lexeme} {type name : Lexeme} {fuel : Nat}
    (ran : wordsWithin spaceGap fuel c = some (modifiers ++ [type, name], d)) :
    ∃ lead between c₀ c₁ c₂ c₃, EndsApart lead ∧ c.Passes lead c₀ ∧ (type.IsRun c₀ c₁ ∧
      Text.IsWord type.text.toList) ∧ c₁.Passes between c₂ ∧ IsGap between ∧
      name.IsRun c₂ c₃ ∧ Text.IsWord name.text.toList := by
  induction modifiers generalizing c fuel with
  | nil =>
    obtain ⟨c₁, first, impossible | ⟨_, c₂, _, gapped, ran⟩⟩ := cases_of_wordsWithin ran
    · cases impossible
    · obtain ⟨c₃, second, -⟩ := cases_of_wordsWithin ran
      obtain ⟨between, isGap, behind⟩ := isGap_of_spaceGap gapped
      exact ⟨[], between, c, c₁, c₂, c₃, endsApart_of_areBlank Text.areBlank_nil, passes_refl c, word_eq_some first,
        behind, isGap, word_eq_some second⟩
  | cons modifier modifiers ih =>
    obtain ⟨c₁, first, impossible | ⟨_, c₂, _, gapped, ran⟩⟩ := cases_of_wordsWithin ran
    · exact absurd impossible (by simp)
    · obtain ⟨lead, between, c₀, c₁', c₂', c₃, apart, passes, parts⟩ := ih ran
      obtain ⟨gap, isGap, behind⟩ := isGap_of_spaceGap gapped
      have before := (passes_of_isRun (word_eq_some first).1).trans (behind.trans passes)
      refine ⟨_, between, c₀, c₁', c₂', c₃, ?_, before, parts⟩
      rw [← List.append_assoc]
      exact (EndsApart.append_blank isGap).append apart

theorem types_globalDeclaration {g : GlobalDeclaration} (ran : globalDeclaration c = some (g, d)) :
    c.Types g.type g.name.span.start := by
  obtain ⟨_, c₁, required, ran⟩ := bind_eq_some.1 ran
  obtain ⟨_, c₂, spaced, ran⟩ := bind_eq_some.1 ran
  obtain ⟨row, c₃, rowed, ran⟩ := bind_eq_some.1 ran
  obtain ⟨_, c₄, got, rowed⟩ := bind_eq_some.1 rowed
  cases got
  cases isRow : globalWords? row with
  | none =>
    rw [isRow] at ran
    cases ran
  | some parts =>
    obtain ⟨modifiers, type, name⟩ := parts
    rw [isRow] at ran
    obtain ⟨_, c₅, -, ran⟩ := bind_eq_some.1 ran
    obtain ⟨size, c₆, -, ran⟩ := bind_eq_some.1 ran
    obtain ⟨_, c₇, -, ran⟩ := bind_eq_some.1 ran
    obtain ⟨_, c₈, -, ran⟩ := bind_eq_some.1 ran
    obtain ⟨_, c₉, -, ran⟩ := bind_eq_some.1 ran
    obtain ⟨_, c₁₀, -, ran⟩ := bind_eq_some.1 ran
    cases ran
    obtain ⟨isStart, same⟩ := require_eq_some required
    obtain ⟨bs, blank, passes⟩ := spaces_eq_some (same ▸ spaced)
    rw [row_of_globalWords? isRow] at rowed
    obtain ⟨lead, between, c₀, c₁', c₂', c₃', apart, passes', isType, behind, isGap, isName⟩ :=
      passes_of_wordsWithin rowed
    refine types_of_passes (passes.trans passes') (fun x isLast => ?_) isType behind (.gap isGap) isName
    rcases Option.or_eq_some_iff.1 isLast with last | ⟨-, isBefore⟩
    · exact (endsApart_of_areBlank blank).append apart x last
    · -- a line starts here, so what is in front of it is a line feed
      rw [atLineStart, isBefore] at isStart
      have : x = '\n' := by simpa using isStart
      rw [this]
      decide

end Outline

end ShaderAnalysis
