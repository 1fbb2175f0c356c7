import ShaderAnalysis.Lexical.Mask
import ShaderAnalysis.Proofs.Text.Line

/-!
# What masking leaves

Masking turns bytes into spaces and does nothing else, so a piece of the masked text without a space is what
the text has there (`slice_of_slice_mask`).
-/

namespace ShaderAnalysis

namespace Text

/-! ## Bytes and boundaries -/

/-- An offset before the end is a boundary if and only if its byte is the first one of a character. -/
theorem isBoundary_iff_isUTF8FirstByte {s : String} {n : Nat} :
    isBoundary s n = true ↔ n = s.utf8ByteSize ∨ ∃ b, (bytes s)[n]? = some b ∧ b.IsUTF8FirstByte := by
  have byte (h : n < s.utf8ByteSize) : (bytes s)[n]? = some (s.getUTF8Byte ⟨n⟩ h) := by
    rw [String.getUTF8Byte_eq_getElem, bytes, Array.getElem?_toList]
    exact Array.getElem?_eq_getElem h
  rw [isBoundary_iff, String.Pos.Raw.isValid_iff_isUTF8FirstByte, String.Pos.Raw.ext_iff]
  refine or_congr Iff.rfl ⟨?_, ?_⟩
  · rintro ⟨h, first⟩
    exact ⟨_, byte h, first⟩
  · rintro ⟨b, here, first⟩
    have h : n < s.utf8ByteSize := by
      have := (List.getElem?_eq_some_iff.1 here).1
      rwa [bytes_eq_encode8, length_encode8, ← utf8ByteSize_eq_length8] at this
    rw [byte h] at here
    cases here
    exact ⟨h, first⟩

theorem isPrefix_of_encode8 {cs ds : List Char} (h : encode8 cs <+: encode8 ds) : cs <+: ds := by
  obtain ⟨rest, same⟩ := h
  apply List.isPrefix_of_utf8Encode_append_eq_utf8Encode rest.toByteArray
  rw [List.utf8Encode, List.utf8Encode, ← List.toByteArray_append]
  exact congrArg List.toByteArray same

theorem encode8_append (cs ds : List Char) : encode8 (cs ++ ds) = encode8 cs ++ encode8 ds :=
  List.flatMap_append

theorem bytes_of_append {s : String} {before after : List Char} (h : s.toList = before ++ after) (i : Nat) :
    (bytes s)[length8 before + i]? = (encode8 after)[i]? := by
  rw [bytes_eq_encode8, h, encode8_append, List.getElem?_append_right (by rw [length_encode8]; omega), length_encode8,
    Nat.add_sub_cancel_left]

/-- Texts with the same bytes in a span have the same characters there. -/
theorem slice_of_bytes {s s' : String} {span : Span} (nonempty : slice s span ≠ "")
    (same : ∀ n, span.start ≤ n → n < span.stop → (bytes s')[n]? = (bytes s)[n]?) : slice s' span = slice s span := by
  obtain ⟨front, back, chars, start, stop⟩ := exists_append_of_slice nonempty
  have room : 0 < length8 (slice s span).toList := length8_pos_of_ne_nil (mt String.toList_eq_nil_iff.1 nonempty)
  -- the span starts at a boundary of the other text, for the first byte is the same
  have isStart : isBoundary s' span.start = true := by
    rcases isBoundary_iff_isUTF8FirstByte.1 (isBoundary_iff_exists_append.2 ⟨front, _, chars, start⟩) with last | first
    · rw [utf8ByteSize_eq_length8, chars, start, length8_append, length8_append] at last
      omega
    · rw [← same _ (Nat.le_refl _) (by omega)] at first
      exact isBoundary_iff_isUTF8FirstByte.2 (.inr first)
  obtain ⟨front', rest, chars', start'⟩ := isBoundary_iff_exists_append.1 isStart
  have begins : encode8 (slice s span).toList <+: encode8 rest := by
    refine List.prefix_iff_getElem?.2 fun i inside => ?_
    have less := inside
    rw [length_encode8] at less
    rw [← bytes_of_append chars', ← start', same _ (by omega) (by omega), start, bytes_of_append chars, encode8_append,
      List.getElem?_append_left inside, List.getElem?_eq_getElem inside]
  obtain ⟨back', rfl⟩ := isPrefix_of_encode8 begins
  have here := slice_of_append chars'
  rwa [← start', ← stop, String.ofList_toList, Span.between_start_stop] at here

/-- An ASCII byte is only in the form of its own character. -/
theorem toNat_of_mem_utf8EncodeChar {c : Char} {b : UInt8} (ascii : b.toNat < 128)
    (member : b ∈ String.utf8EncodeChar c) : c.toNat = b.toNat := by
  have large {n : Nat} (le : 128 ≤ n % 256) : b ≠ UInt8.ofNat n := by
    rintro rfl
    rw [UInt8.toNat_ofNat'] at ascii
    omega
  revert member
  fun_cases String.utf8EncodeChar c with
  | case1 v less =>
    intro member
    have small : v % 256 = v := Nat.mod_eq_of_lt (by omega)
    rw [List.mem_singleton.1 member, UInt8.toNat_ofNat', small]
    rfl
  | case2 v _ _ =>
    simp only [List.mem_cons, List.not_mem_nil, or_false]
    rintro (is | is) <;> exact absurd is (large (by omega))
  | case3 v _ _ _ =>
    simp only [List.mem_cons, List.not_mem_nil, or_false]
    rintro (is | is | is) <;> exact absurd is (large (by omega))
  | case4 v _ _ _ =>
    simp only [List.mem_cons, List.not_mem_nil, or_false]
    rintro (is | is | is | is) <;> exact absurd is (large (by omega))

theorem ne_of_mem_encode8 {cs : List Char} {n : UInt8} (ascii : n.toNat < 128) (other : Char.ofNat n.toNat ∉ cs) :
    ∀ b ∈ encode8 cs, b ≠ n := by
  rintro b member rfl
  obtain ⟨c, isChar, isByte⟩ := List.mem_flatMap.1 member
  rw [← toNat_of_mem_utf8EncodeChar ascii isByte, Char.ofNat_toNat] at other
  exact other isChar

end Text

namespace Lexical

theorem bytes_maskWith (text : String) (cs : List ByteClass) :
    Text.bytes (maskWith text cs) = Text.bytes text ∨
      Text.bytes (maskWith text cs) = maskBytes (Text.bytes text) cs := by
  rw [maskWith, String.fromUTF8?]
  split
  · exact .inr rfl
  · exact .inl rfl

theorem maskByte_eq_or (b : UInt8) (c : ByteClass) : maskByte b c = b ∨ maskByte b c = 32 := by
  unfold maskByte
  split
  · exact .inr rfl
  · exact .inl rfl

/-- Each byte of the masked text is that of the text, or a space. -/
theorem bytes_mask (text : String) (n : Nat) :
    (Text.bytes (mask text))[n]? = (Text.bytes text)[n]? ∨ (Text.bytes (mask text))[n]? = some 32 := by
  rcases bytes_maskWith text (classes text) with same | masked
  · exact .inl (by rw [mask, same])
  · rw [mask, masked, maskBytes, List.getElem?_zipWith]
    have length := length_classes text
    by_cases inside : n < (Text.bytes text).length
    · rw [List.getElem?_eq_getElem inside, List.getElem?_eq_getElem (length ▸ inside)]
      exact (maskByte_eq_or _ _).imp (congrArg some) (congrArg some)
    · rw [List.getElem?_eq_none (Nat.le_of_not_lt inside)]
      exact .inl rfl

/-- A piece of the masked text without a space is what the text has there. -/
theorem slice_of_slice_mask {text : String} {span : Span} (nonempty : Text.slice (mask text) span ≠ "")
    (unspaced : ' ' ∉ (Text.slice (mask text) span).toList) : Text.slice text span = Text.slice (mask text) span := by
  refine Text.slice_of_bytes nonempty fun n lower upper => ?_
  refine (bytes_mask text n).elim Eq.symm fun space => absurd ?_ unspaced
  obtain ⟨front, back, chars, start, stop⟩ := Text.exists_append_of_slice nonempty
  obtain ⟨i, rfl⟩ := Nat.exists_eq_add_of_le (start ▸ lower)
  have inside : i < (Text.encode8 (Text.slice (mask text) span).toList).length := by
    rw [Text.length_encode8]
    omega
  rw [Text.bytes_of_append chars, Text.encode8_append, List.getElem?_append_left inside] at space
  obtain ⟨c, member, inForm⟩ := List.mem_flatMap.1 (List.mem_of_getElem? space)
  have isSpace : c = ' ' := Char.toNat_inj.1 (Text.toNat_of_mem_utf8EncodeChar (by decide) inForm)
  exact isSpace ▸ member

/-- Characters of the masked text without a space among them stand at the same place of the text. -/
theorem exists_append_of_solid {text : String} {front word back : List Char}
    (chars : (mask text).toList = front ++ (word ++ back)) (nonempty : word ≠ []) (unspaced : ' ' ∉ word) :
    ∃ front' back', text.toList = front' ++ (word ++ back') ∧ Text.length8 front' = Text.length8 front := by
  have masked := Text.slice_of_append chars
  have visible : String.ofList word ≠ "" := mt String.ofList_eq_empty_iff.1 nonempty
  have kept := slice_of_slice_mask (masked ▸ visible) (by rwa [masked, String.toList_ofList])
  rw [masked] at kept
  obtain ⟨front', back', chars', start, -⟩ := Text.exists_append_of_slice (kept ▸ visible)
  rw [kept, String.toList_ofList] at chars'
  exact ⟨front', back', chars', start.symm⟩

end Lexical

end ShaderAnalysis
