import ShaderAnalysis.Outline.Source
import ShaderAnalysis.Proofs.Lexical.Innermost
import ShaderAnalysis.Proofs.Lexical.Remask
import ShaderAnalysis.Proofs.Scan.Reading

/-!
# Places in prepared sources

Extraction reads the masked text, and its brackets are those of the text (`braceAt?_ofText`). Where a word or the
braces of the masked text end, the text has a boundary, too, for there both have the same characters.
-/

namespace ShaderAnalysis

namespace Text

/-- An ASCII byte is all of its character. -/
theorem exists_char_of_ascii {cs : List Char} {n : Nat} {b : UInt8} (here : (encode8 cs)[n]? = some b)
    (ascii : b.toNat < 128) :
    ∃ before c after, cs = before ++ c :: after ∧ length8 before = n ∧ String.utf8EncodeChar c = [b] := by
  induction cs generalizing n with
  | nil => simp [encode8] at here
  | cons c cs ih =>
    have parts : encode8 (c :: cs) = String.utf8EncodeChar c ++ encode8 cs := rfl
    rw [parts, List.getElem?_append] at here
    split at here
    · rename_i inside
      have member := List.mem_of_getElem? here
      rcases Lexical.utf8EncodeChar_cases c with ⟨b', encoded, -⟩ | high
      · rw [encoded, List.length_singleton, Nat.lt_one_iff] at inside
        rw [encoded, inside] at here
        cases here
        exact ⟨[], c, cs, rfl, inside.symm, encoded⟩
      · have := high b member
        omega
    · obtain ⟨before, d, after, rfl, length, encoded⟩ := ih here
      refine ⟨c :: before, d, after, rfl, ?_, encoded⟩
      rw [length8, length, ← String.length_utf8EncodeChar]
      omega

/-- On either side of an ASCII byte is a boundary. -/
theorem isBoundary_of_ascii {s : String} {n : Nat} {b : UInt8} (here : (bytes s)[n]? = some b) (ascii : b.toNat < 128) :
    isBoundary s n = true ∧ isBoundary s (n + 1) = true := by
  rw [bytes_eq_encode8] at here
  obtain ⟨before, c, after, chars, length, encoded⟩ := exists_char_of_ascii here ascii
  refine ⟨isBoundary_iff_exists_append.2 ⟨before, c :: after, chars, length.symm⟩, ?_⟩
  refine isBoundary_iff_exists_append.2 ⟨before ++ [c], after, by rw [chars, List.append_assoc]; rfl, ?_⟩
  have one : c.utf8Size = 1 := by rw [← String.length_utf8EncodeChar, encoded]; rfl
  rw [length8_append, length, length8, length8, one]

/-- Where a text has an ASCII byte, it has the character. -/
theorem exists_mem_of_ascii {text : String} {front mid back : List Char} (chars : text.toList = front ++ (mid ++ back))
    {i : Nat} {b : UInt8} (here : (bytes text)[i]? = some b) (ascii : b.toNat < 128) (start : length8 front ≤ i)
    (stop : i < length8 front + length8 mid) : ∃ c ∈ mid, c.toNat = b.toNat := by
  rw [bytes_eq_encode8, chars, encode8_append, encode8_append,
    List.getElem?_append_right (by rw [length_encode8]; exact start), length_encode8,
    List.getElem?_append_left (by rw [length_encode8]; omega)] at here
  obtain ⟨before, c, after, rfl, -, encoded⟩ := exists_char_of_ascii here ascii
  exact ⟨c, by simp, toNat_of_mem_utf8EncodeChar ascii (encoded ▸ List.mem_singleton_self b)⟩

/-- Where a text has the byte of an opening brace, it has an opening brace. -/
theorem mem_of_brace {text : String} {front mid back : List Char} (chars : text.toList = front ++ (mid ++ back))
    {i : Nat} (brace : (bytes text)[i]? = some 123) (start : length8 front ≤ i)
    (stop : i < length8 front + length8 mid) : '\x7b' ∈ mid := by
  obtain ⟨c, member, same⟩ := exists_mem_of_ascii chars brace (by decide) start stop
  have isBrace : c = '\x7b' := Char.toNat_inj.1 same
  rwa [isBrace] at member

theorem brace_of_append {text : String} {front back : List Char} (chars : text.toList = front ++ '\x7b' :: back) :
    (bytes text)[length8 front]? = some 123 := by
  have brace : encode8 ('\x7b' :: back) = 123 :: encode8 back := rfl
  rw [bytes_eq_encode8, chars, encode8_append, List.getElem?_append_right (by rw [length_encode8]), length_encode8,
    Nat.sub_self, brace, List.getElem?_cons_zero]

theorem isBoundary_utf8ByteSize (s : String) : isBoundary s s.utf8ByteSize = true :=
  isBoundary_iff_isUTF8FirstByte.2 (.inl rfl)

/-- Two boundaries cut a text in three. -/
theorem exists_append_of_isBoundary {s : String} {a b : Nat} (start : isBoundary s a = true)
    (stop : isBoundary s b = true) (le : a ≤ b) :
    ∃ front mid back, s.toList = front ++ (mid ++ back) ∧ a = length8 front ∧ b = a + length8 mid := by
  obtain ⟨front, rest, chars, isStart⟩ := isBoundary_iff_exists_append.1 start
  obtain ⟨before, back, chars', isStop⟩ := isBoundary_iff_exists_append.1 stop
  obtain ⟨mid, rfl⟩ := isPrefix_of_length8_le (chars.symm.trans chars') (by omega)
  refine ⟨front, mid, back, by rw [chars', List.append_assoc], isStart, ?_⟩
  rw [isStop, isStart, length8_append]

/-- A slice that is not empty starts and ends at boundaries. -/
theorem isBoundary_of_slice {s : String} {span : Span} (nonempty : slice s span ≠ "") :
    isBoundary s span.start = true ∧ isBoundary s span.stop = true := by
  obtain ⟨before, after, chars, start, stop⟩ := exists_append_of_slice nonempty
  refine ⟨isBoundary_iff_exists_append.2 ⟨before, _, chars, start⟩, ?_⟩
  refine isBoundary_iff_exists_append.2 ⟨before ++ (slice s span).toList, after, by rw [chars, List.append_assoc], ?_⟩
  rw [length8_append, ← start, ← stop]

end Text

namespace Brackets

variable {text : String} {t : Brackets}

theorem getElem?_classified {i : Nat} {x : UInt8 × ByteClass} (here : (classified text)[i]? = some x) :
    (Text.bytes text)[i]? = some x.1 ∧ (Lexical.classes text)[i]? = some x.2 := by
  rw [classified, List.getElem?_zip_eq_some] at here
  exact here

theorem opener_of_opened? {x : UInt8 × ByteClass} (opens : opened? x = some .brace) : x.1 = 123 := by
  unfold opened? BracketKind.openedBy? at opens
  split at opens
  · split at opens
    · cases opens
    · split at opens
      · assumption
      · cases opens
  · cases opens

theorem ascii_of_closed? {x : UInt8 × ByteClass} {kind : BracketKind} (closes : closed? x = some kind) :
    x.1.toNat < 128 := by
  unfold closed? BracketKind.closedBy? at closes
  split at closes
  · split at closes
    · rename_i is
      rw [is]
      decide
    · split at closes
      · rename_i is
        rw [is]
        decide
      · cases closes
  · cases closes

/-- Where a region ends, the text has a boundary. -/
theorem IsArenaOf.isBoundary_stop (arena : t.IsArenaOf (classified text)) {id : Nat} {r : Region} (bracketed : 0 < id)
    (here : t.regions[id]? = some r) : Text.isBoundary text r.stop = true := by
  have bounds := arena.bounds id r bracketed here
  have size : (classified text).length = text.utf8ByteSize := by
    rw [length_classified, Text.bytes_eq_encode8, Text.length_encode8, Text.utf8ByteSize_eq_length8]
  cases isClosed : r.closed with
  | true =>
    obtain ⟨x, last, closes⟩ := Option.bind_eq_some_iff.1 (arena.closer id r bracketed here isClosed)
    have := (Text.isBoundary_of_ascii (getElem?_classified last).1 (ascii_of_closed? closes)).2
    rwa [Nat.sub_add_cancel (by omega)] at this
  | false =>
    rcases arena.sealed id r bracketed here isClosed with atEnd | ⟨_, _, -, -, -, -, -, -, closer⟩
    · rw [atEnd, size]
      exact Text.isBoundary_utf8ByteSize text
    · obtain ⟨x, next, closes⟩ := Option.bind_eq_some_iff.1 closer
      exact (Text.isBoundary_of_ascii (getElem?_classified next).1 (ascii_of_closed? closes)).1

theorem isArenaOf_ofText (text : String) : (ofText text).IsArenaOf (classified text) :=
  isArenaOf_ofBytes (classified text)

/-- Braces have their opener in the text, and end at a boundary of it. -/
theorem opener_of_braceAt? {offset : Nat} {region body : Span}
    (h : (ofText text).braceAt? offset = some (region, body)) :
    (Text.bytes text)[offset]? = some 123 ∧ Text.isBoundary text region.stop = true ∧ offset < region.stop ∧
      body.start = offset + 1 := by
  obtain ⟨id, r, bracketed, here, rfl, kind, rfl, rfl⟩ := braceAt?_eq_some h
  have arena := isArenaOf_ofText text
  obtain ⟨x, opener, opens⟩ := Option.bind_eq_some_iff.1 (arena.opener id r bracketed here)
  have bounds := arena.bounds id r bracketed here
  rw [kind] at opens
  have stop : r.span.stop = r.stop := by
    rw [Region.span, Span.stop_between]
    omega
  refine ⟨?_, ?_, by omega, ?_⟩
  · rw [(getElem?_classified opener).1, opener_of_opened? opens]
  · rw [stop]
    exact arena.isBoundary_stop bracketed here
  · rw [Region.inner, kind]
    rfl

end Brackets

namespace Source

variable {text : String}

theorem brackets_ofText (text : String) : (ofText text).brackets = Brackets.ofText text :=
  Brackets.ofText_mask text

/-- Braces that extraction finds are a region of the text. -/
theorem braceAt?_ofText {offset : Nat} {region body : Span}
    (h : (ofText text).brackets.braceAt? offset = some (region, body)) :
    ∃ id r, 0 < id ∧ (Brackets.ofText text).regions[id]? = some r ∧ r.start = offset ∧ r.kind = .brace ∧
      region = r.span ∧ body = r.inner := by
  rw [brackets_ofText] at h
  exact Brackets.braceAt?_eq_some h

/-- Braces that extraction finds have their opener in the text, and end at a boundary of it. -/
theorem opener_of_braceAt? {offset : Nat} {region body : Span}
    (h : (ofText text).brackets.braceAt? offset = some (region, body)) :
    (Text.bytes text)[offset]? = some 123 ∧ Text.isBoundary text region.stop = true ∧ offset < region.stop ∧
      body.start = offset + 1 := by
  rw [brackets_ofText] at h
  exact Brackets.opener_of_braceAt? h

end Source

end ShaderAnalysis
