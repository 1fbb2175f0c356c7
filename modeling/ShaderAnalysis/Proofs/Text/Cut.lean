import ShaderAnalysis.Text.Slice

/-!
# Cuts between characters

The boundaries of a text are the byte lengths of its beginnings (`isBoundary_iff_exists_append`), and
the slice between two boundaries holds the characters between the two beginnings (`slice_of_append`).
-/

namespace ShaderAnalysis

@[simp] theorem Span.between_start_stop (s : Span) : Span.between s.start s.stop = s := by
  have := s.start_le_stop
  ext
  · rfl
  · rw [Span.stop_between]
    omega

namespace Text

/-! ## Lengths in bytes -/

@[simp] theorem length8_nil : length8 [] = 0 := rfl

@[simp] theorem length8_append (cs ds : List Char) : length8 (cs ++ ds) = length8 cs + length8 ds := by
  induction cs with
  | nil => simp
  | cons c cs ih => simp only [List.cons_append, length8, ih]; omega

theorem utf8ByteSize_ofList (cs : List Char) : (String.ofList cs).utf8ByteSize = length8 cs := by
  induction cs with
  | nil => rfl
  | cons c cs ih => rw [String.ofList_cons, String.utf8ByteSize_append, String.utf8ByteSize_singleton, ih, length8]

theorem utf8ByteSize_eq_length8 (s : String) : s.utf8ByteSize = length8 s.toList := by
  rw [← utf8ByteSize_ofList, String.ofList_toList]

/-! ## Boundaries -/

theorem isBoundary_iff_exists_append {s : String} {n : Nat} :
    isBoundary s n = true ↔ ∃ before after, s.toList = before ++ after ∧ n = length8 before := by
  rw [isBoundary_iff, String.Pos.Raw.isValid_iff_exists_append]
  constructor
  · rintro ⟨a, b, rfl, equal⟩
    refine ⟨a.toList, b.toList, String.toList_append, ?_⟩
    rw [← utf8ByteSize_eq_length8]
    exact congrArg String.Pos.Raw.byteIdx equal
  · rintro ⟨before, after, chars, rfl⟩
    refine ⟨String.ofList before, String.ofList after, ?_, ?_⟩
    · rw [← String.ofList_append, ← chars, String.ofList_toList]
    · rw [← utf8ByteSize_ofList]
      rfl

theorem isValid_length8 {s : String} {before after : List Char} (h : s.toList = before ++ after) :
    (⟨length8 before⟩ : String.Pos.Raw).IsValid s :=
  isBoundary_iff.1 (isBoundary_iff_exists_append.2 ⟨before, after, h, rfl⟩)

/-! ## Slices -/

/-- A slice between two boundaries holds the characters between them. -/
theorem slice?_of_append {s : String} {before mid after : List Char} (h : s.toList = before ++ (mid ++ after)) :
    slice? s (length8 before) (length8 before + length8 mid) = some (String.ofList mid) := by
  have start := isValid_length8 h
  have stop : (⟨length8 before + length8 mid⟩ : String.Pos.Raw).IsValid s := by
    rw [← length8_append]
    exact isValid_length8 (h.trans (List.append_assoc ..).symm)
  rw [slice?, dif_pos ⟨Nat.le_add_right .., start, stop⟩, Option.some.injEq]
  apply String.toByteArray_inj.1
  have whole : s = String.ofList before ++ (String.ofList mid ++ String.ofList after) := by
    rw [← String.ofList_append, ← String.ofList_append, ← h, String.ofList_toList]
  have sizeOf (cs : List Char) : (String.ofList cs).toByteArray.size = length8 cs := by
    rw [String.size_toByteArray, utf8ByteSize_ofList]
  have behind := ByteArray.extract_append_size_add' (i := 0) (j := length8 mid)
    (b := (String.ofList mid).toByteArray ++ (String.ofList after).toByteArray) (sizeOf before).symm
  rw [Nat.add_zero, ByteArray.extract_append_eq_left (sizeOf mid).symm] at behind
  rw [String.toByteArray_extract]
  simp only [whole, String.toByteArray_append, behind]

theorem slice_of_append {s : String} {before mid after : List Char} (h : s.toList = before ++ (mid ++ after)) :
    slice s (.between (length8 before) (length8 before + length8 mid)) = String.ofList mid := by
  have order : max (length8 before) (length8 before + length8 mid) = length8 before + length8 mid := by omega
  rw [slice, Span.start_between, Span.stop_between, order, slice?_of_append h]
  rfl

theorem length8_pos {c : Char} {cs : List Char} : 0 < length8 (c :: cs) := by
  have := c.utf8Size_pos
  rw [length8]
  omega

theorem length8_pos_of_ne_nil {cs : List Char} (nonempty : cs ≠ []) : 0 < length8 cs := by
  obtain ⟨c, cs, rfl⟩ := List.exists_cons_of_ne_nil nonempty
  exact length8_pos

/-- Of two beginnings of a text, the one with fewer bytes begins the other one. -/
theorem isPrefix_of_length8_le {as bs cs ds : List Char} (same : as ++ bs = cs ++ ds)
    (le : length8 as ≤ length8 cs) : as <+: cs := by
  rcases List.prefix_or_prefix_of_prefix (List.prefix_append as bs) (same ▸ List.prefix_append cs ds) with short | long
  · exact short
  · obtain ⟨mid, rfl⟩ := long
    cases mid with
    | nil => exact ⟨[], by simp only [List.append_nil]⟩
    | cons c mid =>
      rw [length8_append] at le
      have : 0 < length8 (c :: mid) := length8_pos
      omega

/-- Beginnings of one text with as many bytes are the same. -/
theorem eq_of_length8_eq {as bs cs ds : List Char} (same : as ++ bs = cs ++ ds) (length : length8 as = length8 cs) :
    as = cs := by
  obtain ⟨mid, rfl⟩ := isPrefix_of_length8_le same (Nat.le_of_eq length)
  cases mid with
  | nil => exact (List.append_nil as).symm
  | cons c mid =>
    have : 0 < length8 (c :: mid) := length8_pos
    rw [length8_append] at length
    omega

/-- A character that starts in a piece of a text is one of the piece. -/
theorem mem_of_bounds {front mid back before after : List Char} {c : Char}
    (same : before ++ c :: after = front ++ (mid ++ back)) (low : length8 front ≤ length8 before)
    (high : length8 before < length8 front + length8 mid) : c ∈ mid := by
  obtain ⟨skipped, rfl⟩ := isPrefix_of_length8_le same.symm low
  rw [List.append_assoc, List.append_cancel_left_eq] at same
  rw [length8_append] at high
  obtain ⟨others, rfl⟩ := isPrefix_of_length8_le same (by omega)
  rw [List.append_assoc, List.append_cancel_left_eq] at same
  cases others with
  | nil =>
    rw [List.append_nil] at high
    omega
  | cons d others =>
    obtain ⟨rfl, -⟩ := List.cons.inj same
    exact List.mem_append_right _ List.mem_cons_self

/-- A slice that is not empty stands in the text at its span. -/
theorem exists_append_of_slice {s : String} {span : Span} (nonempty : slice s span ≠ "") :
    ∃ before after, s.toList = before ++ ((slice s span).toList ++ after) ∧ span.start = length8 before ∧
      span.stop = span.start + length8 (slice s span).toList := by
  have cut : span.start ≤ span.stop ∧ (⟨span.start⟩ : String.Pos.Raw).IsValid s ∧
      (⟨span.stop⟩ : String.Pos.Raw).IsValid s := by
    apply Decidable.byContradiction
    intro h
    rw [slice, slice?, dif_neg h] at nonempty
    exact nonempty rfl
  obtain ⟨before, rest, chars, start⟩ := isBoundary_iff_exists_append.1 (isBoundary_iff.2 cut.2.1)
  obtain ⟨before', after, chars', stop⟩ := isBoundary_iff_exists_append.1 (isBoundary_iff.2 cut.2.2)
  obtain ⟨mid, rfl⟩ := isPrefix_of_length8_le (chars.symm.trans chars') (by omega)
  have split : s.toList = before ++ (mid ++ after) := chars'.trans (List.append_assoc ..)
  have same : slice s span = String.ofList mid := by
    have := slice_of_append split
    rwa [← length8_append, ← stop, ← start, Span.between_start_stop] at this
  refine ⟨before, after, ?_, start, ?_⟩
  · rw [same, String.toList_ofList, split]
  · rw [same, String.toList_ofList, stop, start, length8_append]

theorem slice_to {s : String} {before after : List Char} (h : s.toList = before ++ after) :
    slice s (.between 0 (length8 before)) = String.ofList before := by
  have cut : s.toList = [] ++ (before ++ after) := h
  have := slice_of_append cut
  rwa [length8_nil, Nat.zero_add] at this

theorem slice_from {s : String} {before after : List Char} (h : s.toList = before ++ after) :
    slice s (.between (length8 before) s.utf8ByteSize) = String.ofList after := by
  have cut : s.toList = before ++ (after ++ []) := by rw [h, List.append_nil]
  rw [utf8ByteSize_eq_length8, h, length8_append]
  exact slice_of_append cut

/-- The text up to an offset is cut at a boundary. -/
theorem slice?_upTo (s : String) (n : Nat) :
    slice? s 0 (floorBoundary s (min n s.utf8ByteSize)) = some (upTo s n) := by
  have stop := isBoundary_iff.1 (isBoundary_floorBoundary s (min n s.utf8ByteSize))
  rw [upTo, slice?, dif_pos ⟨Nat.zero_le _, String.Pos.Raw.isValid_zero, stop⟩, Option.getD_some]

theorem floorBoundary_of_isBoundary {s : String} {n : Nat} (boundary : isBoundary s n = true) :
    floorBoundary s n = n := by
  cases n with
  | zero => rfl
  | succ n => rw [floorBoundary, if_pos boundary]

theorem upTo_of_append {s : String} {before after : List Char} (h : s.toList = before ++ after) :
    upTo s (length8 before) = String.ofList before := by
  have boundary : isBoundary s (length8 before) = true := isBoundary_iff_exists_append.2 ⟨before, after, h, rfl⟩
  have within : min (length8 before) s.utf8ByteSize = length8 before := by
    rw [utf8ByteSize_eq_length8, h, length8_append]
    omega
  have whole : s.toList = [] ++ (before ++ after) := h
  have cut := slice?_of_append whole
  rw [length8_nil, Nat.zero_add] at cut
  rw [upTo, within, floorBoundary_of_isBoundary boundary, cut, Option.getD_some]

end Text

end ShaderAnalysis
