import ShaderAnalysis.Inclusion.Directive
import ShaderAnalysis.Proofs.Document.DocComment
import ShaderAnalysis.Proofs.Lexical.Beginning
import ShaderAnalysis.Proofs.Outline.Header

/-!
# Directives as they are written

Directives are found in the masked text, and their spans are used with the text. Masking keeps the characters that
hold a directive together, so the text has them at the same places (`exists_stands`) and the directive is a slice of
it; what stands between them is as long as in the masked text, but comments may have become blanks. So a directive is
reported as it is written, with comments where there may be blanks, and its path as long as no comment is in it
(`all_isWritten`).
-/

namespace ShaderAnalysis

namespace Lexical

open Text DocComment

variable {text : String} {front piece back : List Char}

/-! ## Comments and masking -/

theorem bytes_mask_of_not_isCommentAt {n : Nat} (plain : ¬IsCommentAt text n) :
    (bytes (mask text))[n]? = (bytes text)[n]? := by
  rw [bytes_mask_eq, maskBytes, List.getElem?_zipWith]
  cases here : (bytes text)[n]? with
  | none => rfl
  | some b =>
    have inside : n < (classes text).length := length_classes text ▸ (List.getElem?_eq_some_iff.1 here).1
    rw [IsCommentAt, List.getElem?_eq_getElem inside, Option.any_some, Bool.not_eq_true] at plain
    rw [List.getElem?_eq_getElem inside]
    exact congrArg some (maskByte_of_not_isComment plain b)

/-- A slice without a comment in it is left as it is. -/
theorem slice_mask_of_uncommented {span : Span} (nonempty : slice text span ≠ "")
    (plain : ∀ n, span.start ≤ n → n < span.stop → ¬IsCommentAt text n) : slice (mask text) span = slice text span :=
  slice_of_bytes nonempty fun n low high => bytes_mask_of_not_isCommentAt (plain n low high)

theorem exists_append_of_uncommented (chars : text.toList = front ++ (piece ++ back)) (nonempty : piece ≠ [])
    (plain : ∀ n, length8 front ≤ n → n < length8 front + length8 piece → ¬IsCommentAt text n) :
    ∃ front' back', (mask text).toList = front' ++ (piece ++ back') ∧ length8 front' = length8 front := by
  have here := slice_of_append chars
  have visible : String.ofList piece ≠ "" := mt String.ofList_eq_empty_iff.1 nonempty
  have kept := slice_mask_of_uncommented (here ▸ visible) fun n low high => by
    rw [Span.stop_between, Nat.max_eq_right (Nat.le_add_right ..)] at high
    exact plain n low high
  rw [here] at kept
  obtain ⟨front', back', chars', start, -⟩ := exists_append_of_slice (kept ▸ visible)
  rw [kept, String.toList_ofList] at chars'
  exact ⟨front', back', chars', start.symm⟩

/-- No comment has a byte of the characters that masking leaves, unless they are blanks. -/
theorem not_isCommentAt_of_solid (masked : (mask text).toList = front ++ (piece ++ back))
    (solid : ' ' ∉ piece ∧ '\n' ∉ piece ∧ '\r' ∉ piece) {n : Nat} (low : length8 front ≤ n)
    (high : n < length8 front + length8 piece) : ¬IsCommentAt text n := by
  obtain ⟨i, rfl⟩ := Nat.exists_eq_add_of_le low
  have inside : i < (encode8 piece).length := by
    rw [length_encode8]
    omega
  have here := bytes_of_append masked i
  rw [encode8_append, List.getElem?_append_left inside, List.getElem?_eq_getElem inside] at here
  have member := List.getElem_mem inside
  have space := ne_of_mem_encode8 (n := 32) (by decide) solid.1 _ member
  have feed := ne_of_mem_encode8 (n := 10) (by decide) solid.2.1 _ member
  have back := ne_of_mem_encode8 (n := 13) (by decide) solid.2.2 _ member
  rw [IsCommentAt, Option.any_eq_true]
  rintro ⟨c, isClass, isComment⟩
  rw [isComment_eq_false_of_mask here ⟨space, feed, back⟩ isClass] at isComment
  cases isComment

/-- A place of the text, which is one of the masked text as well. -/
structure IsPlace (text : String) (before rest front back : List Char) : Prop where
  chars : text.toList = before ++ rest
  masked : (mask text).toList = front ++ back
  place : length8 before = length8 front

namespace IsPlace

variable {before rest gap blanks : List Char}

/-- The text has the next characters without a space where the masked text has them. -/
theorem next (h : IsPlace text before rest front (gap ++ (piece ++ back))) (nonempty : piece ≠ [])
    (unspaced : ' ' ∉ piece) : ∃ gap' rest', length8 gap' = length8 gap ∧ rest = gap' ++ (piece ++ rest') ∧
      IsPlace text (before ++ (gap' ++ piece)) rest' (front ++ (gap ++ piece)) back := by
  have masked : (mask text).toList = (front ++ gap) ++ (piece ++ back) := by rw [h.masked, List.append_assoc]
  obtain ⟨before', rest', split, length⟩ := exists_append_of_solid masked nonempty unspaced
  have place := h.place
  rw [length8_append] at length
  obtain ⟨gap', rfl⟩ := isPrefix_of_length8_le (h.chars.symm.trans split) (by omega)
  rw [length8_append] at length
  have same : rest = gap' ++ (piece ++ rest') := by
    have whole := h.chars.symm.trans split
    rwa [List.append_assoc, List.append_cancel_left_eq] at whole
  refine ⟨gap', rest', by omega, same, ⟨?_, ?_, ?_⟩⟩
  · simp only [split, List.append_assoc]
  · simp only [masked, List.append_assoc]
  · simp only [length8_append]
    omega

/-- Where the masked text has blanks, the text has blanks and comments. -/
theorem isCommentAt (h : IsPlace text before (gap ++ rest) front (blanks ++ back)) (same : length8 gap = length8 blanks)
    (blank : AreBlank blanks) {x : Char × Nat} (member : x ∈ placed (length8 before) gap)
    (visible : isBlank x.1 = false) : IsCommentAt text x.2 := by
  obtain ⟨low, high⟩ := bounds_of_mem_placed member
  obtain ⟨as, bs, rfl, start⟩ := mem_placed member
  by_contra plain
  rw [← length8_append] at start
  have split : text.toList = (before ++ as) ++ ([x.1] ++ (bs ++ rest)) := by
    simp only [h.chars, List.append_assoc, List.cons_append, List.nil_append]
  -- no byte of the character is one of a comment, so that the masked text has it, too
  have uncommented (n : Nat) (low : length8 (before ++ as) ≤ n) (high : n < length8 (before ++ as) + length8 [x.1]) :
      ¬IsCommentAt text n := by
    rwa [IsCommentAt, class_of_char split low high, ← start]
  obtain ⟨before', after, kept, there⟩ := exists_append_of_uncommented split (List.cons_ne_nil _ _) uncommented
  have place := h.place
  have isMasked := mem_of_bounds (kept.symm.trans h.masked) (by omega) (by omega)
  rw [blank _ isMasked] at visible
  cases visible

end IsPlace

end Lexical

namespace Directive

open Text Scanner Cursor DocComment

theorem length8_hash : length8 ['#'] = 1 := rfl

theorem length8_name : length8 "include".toList = 7 := by
  decide

/-! ## Pieces -/

/-- The pieces of a directive that are not the same in all of them. -/
structure Pieces where
  gap : List Char
  blanks : List Char
  opener : Char
  path : List Char
  closer : Char

namespace Pieces

/-- The characters in front of the path. -/
def head (p : Pieces) : List Char :=
  '#' :: (p.gap ++ ("include".toList ++ (p.blanks ++ [p.opener])))

/-- All characters, up to the closing delimiter. -/
def chars (p : Pieces) : List Char :=
  p.head ++ (p.path ++ [p.closer])

theorem chars_eq (p : Pieces) :
    p.chars = ['#'] ++ (p.gap ++ ("include".toList ++ (p.blanks ++ ([p.opener] ++ (p.path ++ [p.closer]))))) := by
  simp only [chars, head, List.append_assoc, List.cons_append, List.nil_append]

/-- The delimiters are those that a path can have. -/
structure IsDelimited (p : Pieces) : Prop where
  opener : p.opener = '"' ∨ p.opener = '<'
  closer : p.closer = '"' ∨ p.closer = '>'

/-- The scanner has read these pieces. -/
structure IsRead (p : Pieces) (l : Lexeme) (angled : Bool) (c d : Cursor) : Prop where
  passes : c.Passes p.chars d
  gap : AreBlank p.gap
  blanks : AreBlank p.blanks
  delimited : p.IsDelimited
  angled : angled = (p.opener == '<')
  path : l.text.toList = p.path
  nonempty : p.path ≠ []
  start : l.span.start = c.offset + length8 p.head
  stop : l.span.stop = l.span.start + length8 p.path

end Pieces

theorem scanner_eq_some {c d : Cursor} {l : Lexeme} {angled : Bool} (ran : scanner c = some ((l, angled), d)) :
    ∃ p : Pieces, p.IsRead l angled c d := by
  obtain ⟨_, c₁, hash, ran⟩ := bind_eq_some.1 ran
  obtain ⟨_, c₂, blanked, ran⟩ := bind_eq_some.1 ran
  obtain ⟨_, c₃, named, ran⟩ := bind_eq_some.1 ran
  obtain ⟨_, c₄, blanked', ran⟩ := bind_eq_some.1 ran
  obtain ⟨opener, c₅, opened, ran⟩ := bind_eq_some.1 ran
  obtain ⟨l, c₆, between, ran⟩ := bind_eq_some.1 ran
  obtain ⟨_, c₇, closed, ran⟩ := bind_eq_some.1 ran
  cases ran
  obtain ⟨closer, closed⟩ := discard_eq_some closed
  obtain ⟨gap, blankGap, second⟩ := blanks_eq_some blanked
  obtain ⟨blanks, blank, fourth⟩ := blanks_eq_some blanked'
  obtain ⟨isOpener, fifth⟩ := satisfy_passes opened
  obtain ⟨isRun, -, -⟩ := run_eq_some between
  obtain ⟨isCloser, last⟩ := satisfy_passes closed
  have head : c.Passes ('#' :: (gap ++ ("include".toList ++ (blanks ++ [opener])))) c₅ :=
    (char_eq_some hash).trans (second.trans ((literal_eq_some named).trans (fourth.trans fifth)))
  refine ⟨⟨gap, blanks, opener, l.text.toList, closer⟩, ?_⟩
  exact
    { passes := head.trans ((passes_of_isRun isRun).trans last)
      gap := blankGap
      blanks := blank
      delimited := ⟨by simpa using isOpener, by simpa using isCloser⟩
      angled := rfl
      path := rfl
      nonempty := (text_of_run between).1
      start := by
        rw [isRun.span, Span.start_between, head.offset]
        rfl
      stop := by
        rw [isRun.span, Span.start_between, Span.stop_between, isRun.offset]
        exact Nat.max_eq_right (Nat.le_add_right ..) }

/-! ## The text behind the mask -/

/-- The same pieces, except that those which may be blanks or comments only have as many bytes. -/
structure Pieces.Matches (p m : Pieces) : Prop where
  gap : length8 p.gap = length8 m.gap
  blanks : length8 p.blanks = length8 m.blanks
  opener : p.opener = m.opener
  path : length8 p.path = length8 m.path
  closer : p.closer = m.closer

theorem Pieces.Matches.head {p m : Pieces} (same : p.Matches m) : length8 p.head = length8 m.head := by
  simp only [Pieces.head, length8, length8_append, same.gap, same.blanks, same.opener]

section

variable {text : String} {front back : List Char} {m : Pieces}

/-- The text has the pieces of a directive where the masked text has one. -/
theorem exists_stands (masked : (Lexical.mask text).toList = front ++ (m.chars ++ back)) (delimited : m.IsDelimited) :
    ∃ front' back', ∃ p : Pieces, text.toList = front' ++ (p.chars ++ back') ∧ length8 front' = length8 front ∧
      p.Matches m := by
  have opener : ' ' ∉ [m.opener] := by
    rcases delimited.opener with is | is <;> rw [is] <;> decide
  have closer : ' ' ∉ [m.closer] := by
    rcases delimited.closer with is | is <;> rw [is] <;> decide
  have start : Lexical.IsPlace text [] text.toList [] (front ++ (['#'] ++ (m.gap ++ ("include".toList ++
      (m.blanks ++ ([m.opener] ++ (m.path ++ ([m.closer] ++ back)))))))) := by
    refine ⟨rfl, ?_, rfl⟩
    simp only [masked, Pieces.chars_eq, List.append_assoc, List.nil_append]
  obtain ⟨front', _, length, whole, behindHash⟩ := start.next (List.cons_ne_nil _ _) (by decide)
  obtain ⟨gap, _, sameGap, rfl, behindName⟩ := behindHash.next (by decide) (by decide)
  obtain ⟨blanks, _, sameBlanks, rfl, behindOpener⟩ := behindName.next (List.cons_ne_nil _ _) opener
  obtain ⟨path, back', samePath, rfl, -⟩ := behindOpener.next (List.cons_ne_nil _ _) closer
  refine ⟨front', back', ⟨gap, blanks, m.opener, path, m.closer⟩, ?_, length, sameGap, sameBlanks, rfl, samePath, rfl⟩
  simp only [whole, Pieces.chars_eq, List.append_assoc]

end

/-- How a directive is written: it is the slice of the text with these pieces, its path is between the delimiters, and
among the other pieces there are only blanks and comments. -/
structure IsWritten (text : String) (d : Directive) (p : Pieces) : Prop where
  whole : slice? text d.span.start d.span.stop = some (String.ofList p.chars)
  between : slice? text d.pathSpan.start d.pathSpan.stop = some (String.ofList p.path)
  pathStart : d.pathSpan.start = d.span.start + length8 p.head
  stop : d.span.stop = d.pathSpan.stop + 1
  delimited : p.IsDelimited
  -- the byte in front of the path is `<`
  angled : d.angled = true ↔ (bytes text)[d.pathSpan.start - 1]? = some 60
  path : (∀ n, d.pathSpan.start ≤ n → n < d.pathSpan.stop → ¬IsCommentAt text n) →
    d.path = trimmed (slice text d.pathSpan)
  gap : ∀ x ∈ placed (d.span.start + 1) p.gap, isBlank x.1 = false → IsCommentAt text x.2
  -- in front of the second row of blanks there are `#`, the first one and `include`
  blanks : ∀ x ∈ placed (d.span.start + 8 + length8 p.gap) p.blanks, isBlank x.1 = false → IsCommentAt text x.2
  -- all comments are where there may be blanks, or in the path
  comments : ∀ n, d.span.start ≤ n → n < d.span.stop → IsCommentAt text n →
    (d.span.start + 1 ≤ n ∧ n < d.span.start + 1 + length8 p.gap) ∨
      (d.span.start + 8 + length8 p.gap ≤ n ∧ n + 1 < d.pathSpan.start) ∨ (d.pathSpan.start ≤ n ∧ n < d.pathSpan.stop)

section

variable {text : String} {front front' back back' : List Char} {m p : Pieces}

theorem Pieces.IsDelimited.length8_opener (h : p.IsDelimited) : length8 [p.opener] = 1 := by
  rcases h.opener with is | is <;> rw [is] <;> rfl

theorem Pieces.IsDelimited.length8_closer (h : p.IsDelimited) : length8 [p.closer] = 1 := by
  rcases h.closer with is | is <;> rw [is] <;> rfl

theorem Pieces.IsDelimited.length8_head (h : p.IsDelimited) : length8 p.head = length8 p.gap + length8 p.blanks + 9 := by
  have same : p.head = ['#'] ++ (p.gap ++ ("include".toList ++ (p.blanks ++ [p.opener]))) := rfl
  simp only [same, length8_append, length8_hash, length8_name, h.length8_opener]
  omega

/-- The byte in front of the path says which delimiter opens it. -/
theorem opener_iff (delimited : p.IsDelimited) (chars : text.toList = front ++ (p.chars ++ back)) :
    p.opener == '<' ↔ (bytes text)[length8 front + length8 p.head - 1]? = some 60 := by
  have split : text.toList = (front ++ (['#'] ++ (p.gap ++ ("include".toList ++ p.blanks)))) ++
      ([p.opener] ++ (p.path ++ ([p.closer] ++ back))) := by
    simp only [chars, Pieces.chars_eq, List.append_assoc]
  have place : length8 front + length8 p.head - 1 =
      length8 (front ++ (['#'] ++ (p.gap ++ ("include".toList ++ p.blanks)))) + 0 := by
    simp only [delimited.length8_head, length8_append, length8_hash, length8_name]
    omega
  rw [place, bytes_of_append split]
  rcases delimited.opener with is | is <;> rw [is]
  · exact ⟨fun h => absurd h (by decide), fun h => absurd (Option.some.inj h) (by decide)⟩
  · exact ⟨fun _ => rfl, fun _ => rfl⟩

/-- Comments are where there may be blanks, or in the path. -/
theorem place_of_isCommentAt (delimited : m.IsDelimited)
    (masked : (Lexical.mask text).toList = front ++ (m.chars ++ back)) {n : Nat} (isComment : IsCommentAt text n)
    (low : length8 front ≤ n) (high : n < length8 front + length8 m.chars) :
    (length8 front + 1 ≤ n ∧ n < length8 front + 1 + length8 m.gap) ∨
      (length8 front + 8 + length8 m.gap ≤ n ∧ n + 1 < length8 front + length8 m.head) ∨
        (length8 front + length8 m.head ≤ n ∧ n < length8 front + length8 m.head + length8 m.path) := by
  have outside {before piece after : List Char} (stands : (Lexical.mask text).toList = before ++ (piece ++ after))
      (solid : ' ' ∉ piece ∧ '\n' ∉ piece ∧ '\r' ∉ piece) : ¬(length8 before ≤ n ∧ n < length8 before + length8 piece) :=
    fun inside => Lexical.not_isCommentAt_of_solid stands solid inside.1 inside.2 isComment
  have hash : (Lexical.mask text).toList = front ++ (['#'] ++
      (m.gap ++ ("include".toList ++ (m.blanks ++ ([m.opener] ++ (m.path ++ ([m.closer] ++ back))))))) := by
    simp only [masked, Pieces.chars_eq, List.append_assoc]
  have name : (Lexical.mask text).toList = (front ++ (['#'] ++ m.gap)) ++ ("include".toList ++
      (m.blanks ++ ([m.opener] ++ (m.path ++ ([m.closer] ++ back))))) := by
    simp only [hash, List.append_assoc]
  have opener : (Lexical.mask text).toList = (front ++ (['#'] ++ (m.gap ++ ("include".toList ++ m.blanks)))) ++
      ([m.opener] ++ (m.path ++ ([m.closer] ++ back))) := by
    simp only [hash, List.append_assoc]
  have closer : (Lexical.mask text).toList = (front ++ (m.head ++ m.path)) ++ ([m.closer] ++ back) := by
    simp only [masked, Pieces.chars, List.append_assoc]
  have notHash := outside hash (by decide)
  have notName := outside name (by decide)
  have notOpener := outside opener (by rcases delimited.opener with is | is <;> rw [is] <;> decide)
  have notCloser := outside closer (by rcases delimited.closer with is | is <;> rw [is] <;> decide)
  simp only [Pieces.chars, length8_append, length8_hash, length8_name, delimited.length8_head, delimited.length8_opener,
    delimited.length8_closer] at high notHash notName notOpener notCloser ⊢
  omega

theorem Pieces.Matches.isDelimited (same : p.Matches m) (delimited : m.IsDelimited) : p.IsDelimited where
  opener := same.opener ▸ delimited.opener
  closer := same.closer ▸ delimited.closer

theorem Pieces.Matches.chars (same : p.Matches m) : length8 p.chars = length8 m.chars := by
  simp only [Pieces.chars, length8_append, same.head, same.path, same.closer]

/-- The text has only blanks and comments where a directive has blanks in the masked text. -/
theorem isCommentAt_of_isRead {l : Lexeme} {angled : Bool} {c d : Cursor} (read : m.IsRead l angled c d)
    (masked : (Lexical.mask text).toList = front ++ (m.chars ++ back))
    (chars : text.toList = front' ++ (p.chars ++ back')) (length : length8 front' = length8 front)
    (same : p.Matches m) :
    (∀ x ∈ placed (length8 front' + 1) p.gap, isBlank x.1 = false → IsCommentAt text x.2) ∧
      ∀ x ∈ placed (length8 front' + 8 + length8 p.gap) p.blanks, isBlank x.1 = false → IsCommentAt text x.2 := by
  constructor
  · intro x member visible
    have place : Lexical.IsPlace text (front' ++ ['#'])
        (p.gap ++ ("include".toList ++ (p.blanks ++ ([p.opener] ++ (p.path ++ ([p.closer] ++ back')))))) (front ++ ['#'])
        (m.gap ++ ("include".toList ++ (m.blanks ++ ([m.opener] ++ (m.path ++ ([m.closer] ++ back)))))) := by
      refine ⟨?_, ?_, by rw [length8_append, length8_append, length]⟩
      · simp only [chars, Pieces.chars_eq, List.append_assoc]
      · simp only [masked, Pieces.chars_eq, List.append_assoc]
    refine place.isCommentAt same.gap read.gap ?_ visible
    rwa [length8_append]
  · intro x member visible
    have place : Lexical.IsPlace text (front' ++ (['#'] ++ (p.gap ++ "include".toList)))
        (p.blanks ++ ([p.opener] ++ (p.path ++ ([p.closer] ++ back')))) (front ++ (['#'] ++ (m.gap ++ "include".toList)))
        (m.blanks ++ ([m.opener] ++ (m.path ++ ([m.closer] ++ back)))) := by
      refine ⟨?_, ?_, by simp only [length8_append, length, same.gap]⟩
      · simp only [chars, Pieces.chars_eq, List.append_assoc]
      · simp only [masked, Pieces.chars_eq, List.append_assoc]
    refine place.isCommentAt same.blanks read.blanks ?_ visible
    have start : length8 (front' ++ (['#'] ++ (p.gap ++ "include".toList))) = length8 front' + 8 + length8 p.gap := by
      simp only [length8_append, length8_hash, length8_name]
      omega
    rwa [start]

/-- The path is what the masked text has at its span. -/
theorem slice_mask_of_isRead {l : Lexeme} {angled : Bool} {c d : Cursor} (read : m.IsRead l angled c d)
    (masked : (Lexical.mask text).toList = front ++ (m.chars ++ back)) (offset : c.offset = length8 front) :
    slice (Lexical.mask text) l.span = l.text := by
  have toPath : (Lexical.mask text).toList = (front ++ m.head) ++ (m.path ++ ([m.closer] ++ back)) := by
    simp only [masked, Pieces.chars, List.append_assoc]
  have here := slice_of_append toPath
  rwa [length8_append, ← offset, ← read.start, ← read.stop, Span.between_start_stop, ← read.path,
    String.ofList_toList] at here

theorem exists_isWritten {l : Lexeme} {angled : Bool} {c d : Cursor} (read : m.IsRead l angled c d)
    (isIn : c.IsIn (Lexical.mask text)) :
    ∃ p, IsWritten text ⟨trimmed l.text, l.span, .between c.offset d.offset, angled⟩ p := by
  obtain ⟨front, behind, masked, offset⟩ := isIn
  rw [read.passes.chars, List.append_assoc] at masked
  obtain ⟨front', back', p, chars, length, same⟩ := exists_stands masked read.delimited
  have delimited := same.isDelimited read.delimited
  have start : c.offset = length8 front' := offset.trans length.symm
  have stop : d.offset = length8 front' + length8 p.chars := by rw [read.passes.offset, start, same.chars]
  have pathStart : l.span.start = length8 front' + length8 p.head := by rw [read.start, start, same.head]
  have pathStop : l.span.stop = length8 front' + length8 p.head + length8 p.path := by
    rw [read.stop, pathStart, same.path]
  have toPath : text.toList = (front' ++ p.head) ++ (p.path ++ ([p.closer] ++ back')) := by
    simp only [chars, Pieces.chars, List.append_assoc]
  have closer := delimited.length8_closer
  have comments := isCommentAt_of_isRead read masked chars length same
  have between := slice?_of_append toPath
  rw [length8_append, ← pathStop, ← pathStart] at between
  have visible : slice text l.span ≠ "" := by
    have room := length8_pos_of_ne_nil read.nonempty
    rw [slice, between, Option.getD_some, Ne, String.ofList_eq_empty_iff]
    intro empty
    rw [← same.path, empty] at room
    exact absurd room (Nat.lt_irrefl 0)
  refine ⟨p, ?_⟩
  exact
    { whole := by
        rw [Span.start_between, Span.stop_between, Nat.max_eq_right (by omega), start, stop]
        exact slice?_of_append chars
      between
      pathStart := by rw [Span.start_between, pathStart, start]
      stop := by
        rw [Span.stop_between, Nat.max_eq_right (by omega), stop, pathStop, Pieces.chars]
        simp only [length8_append, closer, Nat.add_assoc]
      delimited
      angled := by
        rw [pathStart, read.angled, ← same.opener]
        exact opener_iff delimited chars
      path := by
        intro plain
        have kept := Lexical.slice_mask_of_uncommented visible plain
        rw [slice_mask_of_isRead read masked offset] at kept
        exact congrArg trimmed kept
      gap := by
        rw [Span.start_between, start]
        exact comments.1
      blanks := by
        rw [Span.start_between, start]
        exact comments.2
      comments := by
        intro n low high isComment
        rw [Span.start_between] at low
        rw [Span.stop_between, Nat.max_eq_right (by omega), read.passes.offset] at high
        have places := place_of_isCommentAt read.delimited masked isComment (offset ▸ low) (offset ▸ high)
        rwa [Span.start_between, same.gap, read.stop, read.start, offset] }

end

/-- Directives come in the order of the text and do not overlap, and each is reported as it is written. -/
theorem all_isWritten (text : String) :
    (all text).Pairwise (fun a b => a.span.stop ≤ b.span.start) ∧ ∀ d ∈ all text, ∃ p, IsWritten text d p := by
  constructor
  · rw [all, List.pairwise_map]
    exact pairwise_findAll ..
  · intro d member
    obtain ⟨⟨⟨l, angled⟩, span⟩, found, rfl⟩ := List.mem_map.1 member
    obtain ⟨c, after, leads, -, ran, rfl⟩ := mem_findFrom found
    obtain ⟨m, read⟩ := scanner_eq_some ran
    have start : (Cursor.ofText (Lexical.mask text) 0).IsIn (Lexical.mask text) :=
      ⟨[], [], (List.append_nil _).symm, rfl⟩
    exact exists_isWritten read (start.leadsTo leads)

/-- A directive with a comment for a blank. -/
def spacedByComment : String :=
  "#include /* c */ \"a.hlsl\""

/-- A directive with a comment in its path. -/
def pathWithComment : String :=
  "#include <a/*b*/c.h>"

/-- Comments can be inside of directives, and a path with one is not the path that is written. -/
theorem all_commented :
    (∃ d ∈ all spacedByComment, ∃ n, d.span.start ≤ n ∧ n < d.span.stop ∧ IsCommentAt spacedByComment n) ∧
      ∃ d ∈ all pathWithComment, d.path ≠ trimmed (slice pathWithComment d.pathSpan) := by
  have spaced : all spacedByComment = [⟨"a.hlsl", .between 18 24, .between 0 25, false⟩] := by decide +kernel
  have inPath : all pathWithComment = [⟨"a     c.h", .between 10 19, .between 0 20, true⟩] := by decide +kernel
  rw [spaced, inPath]
  refine ⟨⟨_, List.mem_cons_self, 9, by decide, by decide, by decide +kernel⟩, _, List.mem_cons_self, ?_⟩
  decide +kernel

end Directive

end ShaderAnalysis
