import ShaderAnalysis.Proofs.Lexical.Remask

/-!
# Masking a part of a text

A part of a text that starts in code and ends with a brace has the same comments as it has in the text
(`mask_part`): the scanner is in code in front of it either way, and a brace does not start a sequence that goes on
behind the part. A word has one class (`class_of_word`), the one that the scanner is in when it gets to the word, which
is no comment if masking leaves the word (`exists_of_word_mask`); a part that starts in code gives it the same class
(`contentBefore_part`).
-/

namespace ShaderAnalysis.Lexical

/-- Where the scanner is in front of byte `n`. -/
def stateBefore (s : State) : Nat → List UInt8 → State
  | 0, _ => s
  | _ + 1, [] => s
  | n + 1, b :: bs => stateBefore (step s b bs.head?).2 n bs

/-- The scanner of the text is in code in front of byte `n`. -/
def IsCodeBefore (text : String) (n : Nat) : Prop :=
  stateBefore (.within .code) n (Text.bytes text) = .within .code

instance (text : String) (n : Nat) : Decidable (IsCodeBefore text n) :=
  inferInstanceAs (Decidable (_ = _))

theorem drop_classesFrom (s : State) (n : Nat) (bs : List UInt8) :
    (classesFrom s bs).drop n = classesFrom (stateBefore s n bs) (bs.drop n) := by
  induction n generalizing s bs with
  | zero => rfl
  | succ n ih =>
    cases bs with
    | nil => rfl
    | cons b bs => rw [classesFrom_cons, List.drop_succ_cons, List.drop_succ_cons, stateBefore, ih]

/-- A brace has the same class whatever comes behind it. -/
theorem step_brace (s : State) (next next' : Option UInt8) : (step s 123 next).1 = (step s 123 next').1 := by
  cases s with
  | within content => cases content <;> rfl
  | second => rfl

theorem take_classesFrom (s : State) (before after : List UInt8) :
    (classesFrom s (before ++ 123 :: after)).take (before.length + 1) = classesFrom s (before ++ [123]) := by
  induction before generalizing s with
  | nil =>
    rw [List.nil_append, List.nil_append, classesFrom_cons, classesFrom_cons, List.length_nil, List.take_succ_cons,
      List.take_zero, step_brace s after.head? none]
    rfl
  | cons b before ih =>
    have head : (before ++ 123 :: after).head? = (before ++ [123]).head? := by cases before <;> rfl
    rw [List.cons_append, List.cons_append, classesFrom_cons, classesFrom_cons, List.length_cons, List.take_succ_cons,
      ih, head]

/-- The text can be cut at the same offsets once it is masked. -/
theorem isBoundary_mask {text : String} {n : Nat} (h : Text.isBoundary text n = true) :
    Text.isBoundary (mask text) n = true := by
  rw [Text.isBoundary_iff_isUTF8FirstByte] at h ⊢
  rcases h with last | ⟨b, here, first⟩
  · left
    have := length_bytes_mask text
    rwa [Text.bytes_eq_encode8, Text.bytes_eq_encode8, Text.length_encode8, Text.length_encode8,
      ← Text.utf8ByteSize_eq_length8, ← Text.utf8ByteSize_eq_length8, ← last, eq_comm] at this
  · right
    rcases bytes_mask text n with same | space
    · exact ⟨b, same.trans here, first⟩
    · exact ⟨32, space, by decide⟩

variable {text : String} {front part back : List Char}

/-- The bytes of a part that starts in code and ends with a brace, masked on their own. -/
theorem bytes_mask_part (chars : text.toList = front ++ (part ++ back)) (ends : part.getLast? = some '\x7b')
    (code : IsCodeBefore text (Text.length8 front)) : Text.bytes (mask (String.ofList part)) =
      ((Text.bytes (mask text)).drop (Text.length8 front)).take (Text.length8 part) := by
  obtain ⟨mid, rfl⟩ := List.getLast?_eq_some_iff.1 ends
  have last : Text.encode8 (mid ++ ['\x7b']) = Text.encode8 mid ++ [123] := by
    rw [Text.encode8_append]
    rfl
  have bytes : (Text.bytes text).drop (Text.length8 front) = Text.encode8 mid ++ 123 :: Text.encode8 back := by
    rw [Text.bytes_eq_encode8, chars, Text.encode8_append, ← Text.length_encode8, List.drop_left, Text.encode8_append,
      last, ← List.append_cons]
  have length : Text.length8 (mid ++ ['\x7b']) = (Text.encode8 mid).length + 1 := by
    rw [← Text.length_encode8, last, List.length_append, List.length_singleton]
  have dropped : (classes text).drop (Text.length8 front) =
      classesFrom (.within .code) (Text.encode8 mid ++ 123 :: Text.encode8 back) := by
    rw [← bytes, ← show stateBefore _ (Text.length8 front) (Text.bytes text) = .within .code from code]
    exact drop_classesFrom (.within .code) (Text.length8 front) (Text.bytes text)
  have cut : (Text.encode8 mid ++ 123 :: Text.encode8 back).take ((Text.encode8 mid).length + 1) =
      Text.encode8 mid ++ [123] := by
    rw [List.append_cons, List.take_left' (by rw [List.length_append, List.length_singleton])]
  have alone : classes (String.ofList (mid ++ ['\x7b'])) =
      classesFrom (.within .code) (Text.encode8 mid ++ [123]) := by
    rw [← last, ← Text.bytes_ofList]
    rfl
  rw [bytes_mask_eq, bytes_mask_eq, Text.bytes_ofList, last, alone, maskBytes, maskBytes, List.drop_zipWith,
    List.take_zipWith, length, dropped, bytes, take_classesFrom, cut]

/-- A part that starts in code and ends with a brace is masked like the whole text. -/
theorem mask_part (chars : text.toList = front ++ (part ++ back)) (ends : part.getLast? = some '\x7b')
    (code : IsCodeBefore text (Text.length8 front)) :
    ∃ front' part' back', (mask text).toList = front' ++ (part' ++ back') ∧
      Text.length8 front' = Text.length8 front ∧ Text.length8 part' = Text.length8 part ∧
      mask (String.ofList part) = String.ofList part' := by
  have start := isBoundary_mask (Text.isBoundary_iff_exists_append.2 ⟨_, _, chars, rfl⟩)
  have stop := isBoundary_mask (Text.isBoundary_iff_exists_append.2
    ⟨front ++ part, back, chars.trans (List.append_assoc ..).symm, rfl⟩)
  obtain ⟨front', rest, split, isStart⟩ := Text.isBoundary_iff_exists_append.1 start
  obtain ⟨before, back', split', isStop⟩ := Text.isBoundary_iff_exists_append.1 stop
  rw [Text.length8_append] at isStop
  obtain ⟨part', rfl⟩ := Text.isPrefix_of_length8_le (split.symm.trans split') (by omega)
  rw [Text.length8_append] at isStop
  have same : Text.length8 part = Text.length8 part' := by omega
  refine ⟨front', part', back', by rw [split', List.append_assoc], isStart.symm, same.symm, ?_⟩
  apply String.toByteArray_inj.1
  refine ByteArray.ext (Array.ext' ?_)
  have bytes : Text.bytes (mask (String.ofList part)) = Text.bytes (String.ofList part') := by
    rw [bytes_mask_part chars ends code, Text.bytes_eq_encode8, split', isStart, same, ← Text.length_encode8,
      ← Text.length_encode8, Text.encode8_append, Text.encode8_append, List.append_assoc, List.drop_left,
      List.take_left, Text.bytes_ofList]
  exact bytes

/-! ## Words -/

/-- The class of the content that the scanner is in in front of byte `n`. -/
def contentBefore (text : String) (n : Nat) : ByteClass :=
  (stateBefore (.within .code) n (Text.bytes text)).content

theorem stateBefore_add (s : State) (n m : Nat) (bs : List UInt8) :
    stateBefore s (n + m) bs = stateBefore (stateBefore s n bs) m (bs.drop n) := by
  induction n generalizing s bs with
  | zero => rw [Nat.zero_add, stateBefore, List.drop_zero]
  | succ n ih =>
    cases bs with
    | nil =>
      rw [Nat.succ_add, stateBefore, stateBefore, List.drop_nil]
      cases m <;> rfl
    | cons b bs => rw [Nat.succ_add, stateBefore, stateBefore, ih, List.drop_succ_cons]

/-- The scanner looks one byte ahead. -/
theorem stateBefore_append (s : State) (before : List UInt8) (b : UInt8) (rest rest' : List UInt8) :
    stateBefore s before.length (before ++ b :: rest) = stateBefore s before.length (before ++ b :: rest') := by
  induction before generalizing s with
  | nil => rfl
  | cons c before ih =>
    have head : (before ++ b :: rest).head? = (before ++ b :: rest').head? := by cases before <;> rfl
    rw [List.cons_append, List.cons_append, List.length_cons, stateBefore, stateBefore, head, ih]

theorem expects_stateBefore {s : State} {bs : List UInt8} (expects : s.Expects bs) (n : Nat) :
    (stateBefore s n bs).Expects (bs.drop n) := by
  induction n generalizing s bs with
  | zero => exact expects
  | succ n ih =>
    cases bs with
    | nil => exact expects
    | cons b bs => exact ih (expects_step s b bs)

/-- Bytes of words neither start nor end anything, nor are they left of a comment. -/
theorem ne_of_mem_word {word : List Char} (isWord : ∀ c ∈ word, Text.isWordChar c = true) {b : UInt8}
    (member : b ∈ Text.encode8 word) : ∀ n ∈ [10, 13, 32, 34, 39, 42, 47, 92], b ≠ n := by
  have known : ([10, 13, 32, 34, 39, 42, 47, 92] : List UInt8).all fun n =>
      n.toNat < 128 && !Text.isWordChar (Char.ofNat n.toNat) := by decide
  intro n isOther
  have other := List.all_eq_true.1 known n isOther
  rw [Bool.and_eq_true, decide_eq_true_eq, Bool.not_eq_true'] at other
  refine Text.ne_of_mem_encode8 other.1 (fun isChar => ?_) b member
  rw [isWord _ isChar] at other
  cases other.2

/-- A word has the class of the content that it stands in. -/
theorem classesFrom_word {s : State} {word : List Char} (isWord : ∀ c ∈ word, Text.isWordChar c = true)
    {rest : List UInt8} (expects : s.Expects (Text.encode8 word ++ rest)) : ∃ s', classesFrom s
      (Text.encode8 word ++ rest) = List.replicate (Text.length8 word) s.content ++ classesFrom s' rest := by
  have ordinary (mode : ByteClass) :
      ∀ b ∈ Text.encode8 word, ∀ next, step (.within mode) b next = (mode, .within mode) := by
    intro b member next
    have other := ne_of_mem_word isWord member
    simp only [List.forall_mem_cons] at other
    cases mode <;> simp [step, other, ByteClass.quote]
  rw [← Text.length_encode8]
  cases s with
  | within mode => exact ⟨_, classesFrom_append_of_ordinary (ordinary mode) rest⟩
  | second this next =>
    generalize bytes : Text.encode8 word = bs at *
    cases bs with
    | nil => exact ⟨_, rfl⟩
    | cons b bs =>
      have same : this = next := by
        refine expects.resolve_right fun closes => ?_
        exact ne_of_mem_word isWord (bytes ▸ List.mem_cons_self) 47 (by decide) (Option.some.inj closes.2.2)
      refine ⟨.within next, ?_⟩
      rw [List.cons_append, classesFrom_cons, List.length_cons, List.replicate_succ, List.cons_append, same]
      exact congrArg (next :: ·) (classesFrom_append_of_ordinary (fun b member => ordinary next b
        (List.mem_cons_of_mem _ member)) rest)

variable {word : List Char}

/-- All of a word has the class of the content that the scanner is in when it gets to the word. -/
theorem class_of_word (chars : text.toList = front ++ (word ++ back))
    (isWord : ∀ c ∈ word, Text.isWordChar c = true) {i : Nat} (inside : i < Text.length8 word) :
    (classes text)[Text.length8 front + i]? = some (contentBefore text (Text.length8 front)) := by
  have bytes : (Text.bytes text).drop (Text.length8 front) = Text.encode8 word ++ Text.encode8 back := by
    rw [Text.bytes_eq_encode8, chars, Text.encode8_append, ← Text.length_encode8, List.drop_left, Text.encode8_append]
  have expects : (stateBefore (.within .code) (Text.length8 front) (Text.bytes text)).Expects
      (Text.encode8 word ++ Text.encode8 back) := bytes ▸ expects_stateBefore (s := .within .code) trivial _
  obtain ⟨s', same⟩ := classesFrom_word isWord expects
  have dropped : (classes text).drop (Text.length8 front) = _ :=
    drop_classesFrom (.within .code) (Text.length8 front) (Text.bytes text)
  rw [← List.getElem?_drop, dropped, bytes, same, List.getElem?_append_left (by rwa [List.length_replicate]),
    List.getElem?_replicate, if_pos inside]
  rfl

/-- A word that masking leaves stands in the text, and in no comment of it. -/
theorem exists_of_word_mask (chars : (mask text).toList = front ++ (word ++ back)) (nonempty : word ≠ [])
    (isWord : ∀ c ∈ word, Text.isWordChar c = true) : ∃ front' back', text.toList = front' ++ (word ++ back') ∧
      Text.length8 front' = Text.length8 front ∧ (contentBefore text (Text.length8 front)).isComment = false := by
  have unspaced : ' ' ∉ word := fun isChar => absurd (isWord ' ' isChar) (by decide)
  obtain ⟨front', back', chars', start⟩ := exists_append_of_solid chars nonempty unspaced
  refine ⟨front', back', chars', start, ?_⟩
  -- the first byte of the word is not what masking leaves of a comment
  have room := Text.length8_pos_of_ne_nil nonempty
  have first : 0 < (Text.encode8 word).length := by rwa [Text.length_encode8]
  have here := Text.bytes_of_append chars 0
  rw [Text.encode8_append, List.getElem?_append_left first, List.getElem?_eq_getElem first] at here
  have isClass := class_of_word chars' isWord room
  rw [start] at isClass
  have other := ne_of_mem_word isWord (List.getElem_mem first)
  exact isComment_eq_false_of_mask here ⟨other 32 (by decide), other 10 (by decide), other 13 (by decide)⟩ isClass

/-- A part that starts in code has the same content as it has in the text. -/
theorem contentBefore_part {before after : List Char}
    (chars : text.toList = front ++ ((before ++ (word ++ after)) ++ back)) (nonempty : word ≠ [])
    (code : IsCodeBefore text (Text.length8 front)) : contentBefore text (Text.length8 front + Text.length8 before) =
      contentBefore (String.ofList (before ++ (word ++ after))) (Text.length8 before) := by
  obtain ⟨b, bs, first⟩ : ∃ b bs, Text.encode8 word = b :: bs := by
    refine List.exists_cons_of_length_pos ?_
    rw [Text.length_encode8]
    exact Text.length8_pos_of_ne_nil nonempty
  have bytes : (Text.bytes text).drop (Text.length8 front) =
      Text.encode8 before ++ b :: (bs ++ (Text.encode8 after ++ Text.encode8 back)) := by
    rw [Text.bytes_eq_encode8, chars, Text.encode8_append, ← Text.length_encode8, List.drop_left, Text.encode8_append,
      Text.encode8_append, Text.encode8_append, first]
    simp only [List.append_assoc, List.cons_append]
  have alone : Text.bytes (String.ofList (before ++ (word ++ after))) =
      Text.encode8 before ++ b :: (bs ++ Text.encode8 after) := by
    rw [Text.bytes_ofList, Text.encode8_append, Text.encode8_append, first]
    rfl
  rw [contentBefore, contentBefore, stateBefore_add, show stateBefore _ _ (Text.bytes text) = _ from code, bytes, alone,
    ← Text.length_encode8 before, stateBefore_append]

/-- A word that masking leaves in a part that starts in code stands in the text, and in no comment of it. -/
theorem exists_of_word_mask_part (chars : text.toList = front ++ (part ++ back))
    (code : IsCodeBefore text (Text.length8 front)) {before after : List Char}
    (masked : (mask (String.ofList part)).toList = before ++ (word ++ after)) (nonempty : word ≠ [])
    (isWord : ∀ c ∈ word, Text.isWordChar c = true) : ∃ front' back', text.toList = front' ++ (word ++ back') ∧
      Text.length8 front' = Text.length8 front + Text.length8 before ∧
      Text.length8 front' + Text.length8 word ≤ Text.length8 front + Text.length8 part ∧
      (contentBefore text (Text.length8 front')).isComment = false := by
  obtain ⟨before', after', split, length, visible⟩ := exists_of_word_mask masked nonempty isWord
  rw [String.toList_ofList] at split
  rw [split] at chars ⊢
  rw [split, ← length, ← contentBefore_part chars nonempty code] at visible
  refine ⟨front ++ before', after' ++ back, ?_, ?_, ?_, ?_⟩
  · rw [chars]
    simp only [List.append_assoc]
  · rw [Text.length8_append, length]
  · simp only [Text.length8_append]
    omega
  · rwa [Text.length8_append]

end ShaderAnalysis.Lexical
