import ShaderAnalysis.Proofs.Lexical.Window

/-!
# Scanning the beginning of a text

A scan that stops in the middle of a text has not seen the byte that it would look at next, and it stops at the start
of a character. If the byte at the offset is none of the marks that the scanner knows, neither changes the answer: the
two scans are in the same content there (`content_stateAfter`), and this is the class of the byte (`class_of_plain`),
which all bytes of its character have (`classAt_eq`).
-/

namespace ShaderAnalysis

namespace Text

/-- Every offset inside a text falls into one of its characters. -/
theorem exists_char_of_lt {cs : List Char} {n : Nat} (inside : n < length8 cs) :
    ∃ before c after, cs = before ++ c :: after ∧ length8 before ≤ n ∧ n < length8 before + c.utf8Size := by
  induction cs generalizing n with
  | nil => exact absurd inside (Nat.not_lt_zero n)
  | cons c cs ih =>
    rcases Nat.lt_or_ge n c.utf8Size with isFirst | behind
    · exact ⟨[], c, cs, rfl, Nat.zero_le n, by rwa [length8_nil, Nat.zero_add]⟩
    · rw [length8] at inside
      obtain ⟨before, d, after, rfl, low, high⟩ := ih (n := n - c.utf8Size) (by omega)
      exact ⟨c :: before, d, after, rfl, by rw [length8]; omega, by rw [length8]; omega⟩

/-- No boundary lies between an offset and the last boundary at or before it. -/
theorem le_floorBoundary {s : String} {m n : Nat} (boundary : isBoundary s m = true) (le : m ≤ n) :
    m ≤ floorBoundary s n := by
  induction n with
  | zero => exact le
  | succ n ih =>
    rw [floorBoundary]
    split
    · exact le
    · rename_i other
      refine ih (Nat.le_of_lt_succ (Nat.lt_of_le_of_ne le ?_))
      rintro rfl
      exact other boundary

/-- The last boundary before an offset inside a character is where the character starts. -/
theorem floorBoundary_of_char {s : String} {before after : List Char} {c : Char} (chars : s.toList = before ++ c :: after)
    {n : Nat} (low : length8 before ≤ n) (high : n < length8 before + c.utf8Size) :
    floorBoundary s n = length8 before := by
  have isStart : isBoundary s (length8 before) = true := isBoundary_iff_exists_append.2 ⟨before, _, chars, rfl⟩
  have least := le_floorBoundary isStart low
  have most := floorBoundary_le s n
  obtain ⟨front, back, split, stop⟩ := isBoundary_iff_exists_append.1 (isBoundary_floorBoundary s n)
  rw [stop] at least most ⊢
  obtain ⟨mid, rfl⟩ := isPrefix_of_length8_le (chars.symm.trans split) least
  cases mid with
  | nil => rw [List.append_nil]
  | cons d mid =>
    -- the boundary would be behind the character
    rw [split, List.append_assoc, List.append_cancel_left_eq] at chars
    cases chars
    rw [length8_append, length8] at most
    omega

theorem upTo_of_char {s : String} {before after : List Char} {c : Char} (chars : s.toList = before ++ c :: after)
    {n : Nat} (low : length8 before ≤ n) (high : n < length8 before + c.utf8Size) :
    upTo s n = String.ofList before := by
  have inside : min n s.utf8ByteSize = n := by
    rw [utf8ByteSize_eq_length8, chars, length8_append, length8]
    omega
  have start : min (length8 before) s.utf8ByteSize = length8 before := by omega
  have isStart : isBoundary s (length8 before) = true := isBoundary_iff_exists_append.2 ⟨before, _, chars, rfl⟩
  have whole := upTo_of_append chars
  rw [upTo, start, floorBoundary_of_isBoundary isStart] at whole
  rw [upTo, inside, floorBoundary_of_char chars low high, whole]

end Text

namespace Lexical

/-- The bytes that start, end or escape something, or go on with a sequence: `"`, `'`, `*`, `/`, the backslash and the
line feed. -/
def marks : List UInt8 :=
  [10, 34, 39, 42, 47, 92]

section

variable {b : UInt8} (plain : b ∉ marks)

include plain

/-- It makes no difference to the content behind a byte whether a plain byte follows or nothing. -/
theorem content_step (s : State) (c : UInt8) : (step s c none).2.content = (step s c (some b)).2.content := by
  simp only [marks, List.mem_cons, List.not_mem_nil, or_false, not_or] at plain
  cases s with
  | second this next => rfl
  | within mode => cases mode <;> simp only [step] <;> grind [State.content]

/-- A plain byte is of the content that the scanner is in. -/
theorem step_of_plain {s : State} {bs : List UInt8} (expects : s.Expects (b :: bs)) (next : Option UInt8) :
    (step s b next).1 = s.content := by
  simp only [marks, List.mem_cons, List.not_mem_nil, or_false, not_or] at plain
  cases s with
  | second this behind =>
    -- only the slash behind a star has another class than what follows it
    rcases expects with same | ⟨-, -, closes⟩
    · exact same
    · exact absurd (Option.some.inj closes) plain.2.2.2.2.1
  | within mode => cases mode <;> simp [step, State.content, ByteClass.quote, plain]

/-- Up to a plain byte, the beginning of a text is read like the text. -/
theorem content_stateAfter (s : State) (before rest : List UInt8) :
    (stateAfter s before).content = (stateBefore s before.length (before ++ b :: rest)).content := by
  induction before generalizing s with
  | nil => rfl
  | cons c before ih =>
    rw [stateAfter, List.length_cons, List.cons_append, stateBefore]
    cases before with
    | nil => exact content_step plain s c
    | cons d before => exact ih _

/-- A plain byte has the class of the content that the text before it ends in. -/
theorem class_of_plain {s : State} {before rest : List UInt8} (expects : s.Expects (before ++ b :: rest)) :
    (classesFrom s (before ++ b :: rest))[before.length]? = some (stateAfter s before).content := by
  have further := expects_stateBefore expects before.length
  rw [List.drop_left] at further
  rw [← List.head?_drop, drop_classesFrom, List.drop_left, classesFrom_cons, List.head?_cons,
    step_of_plain plain further, content_stateAfter plain]

end

variable {text : String} {i : Nat}

/-- All bytes of a character have the class of its first one. -/
theorem class_of_char {before after : List Char} {c : Char} (chars : text.toList = before ++ c :: after)
    (low : Text.length8 before ≤ i) (high : i < Text.length8 before + c.utf8Size) :
    (classes text)[i]? = (classes text)[Text.length8 before]? := by
  have bytes : (Text.bytes text).drop (Text.length8 before) = String.utf8EncodeChar c ++ Text.encode8 after := by
    rw [Text.bytes_eq_encode8, chars, Text.encode8_append, ← Text.length_encode8, List.drop_left]
    rfl
  have start : (State.within .code).Expects (Text.bytes text) := trivial
  have expects := expects_stateBefore start (Text.length8 before)
  have dropped : (classes text).drop (Text.length8 before) = _ :=
    drop_classesFrom (.within .code) (Text.length8 before) (Text.bytes text)
  rw [bytes] at expects dropped
  obtain ⟨k, s, isClass, -⟩ := exists_classesFrom_utf8EncodeChar c _ expects
  have inChar {j : Nat} (inside : j < c.utf8Size) : (classes text)[Text.length8 before + j]? = some k := by
    rw [← List.getElem?_drop, dropped, isClass, List.getElem?_append_left (by rwa [List.length_replicate]),
      List.getElem?_replicate, if_pos inside]
  obtain ⟨j, rfl⟩ := Nat.exists_eq_add_of_le low
  rw [inChar (Nat.lt_of_add_lt_add_left high)]
  exact (inChar c.utf8Size_pos).symm

/-- A character with a plain byte starts with one. -/
theorem exists_first_plain {c : Char} {b : UInt8} (isByte : b ∈ String.utf8EncodeChar c) (plain : b ∉ marks) :
    ∃ first others, String.utf8EncodeChar c = first :: others ∧ first ∉ marks := by
  obtain ⟨first, others, form⟩ := List.exists_cons_of_ne_nil (List.ne_nil_of_mem isByte)
  refine ⟨first, others, form, ?_⟩
  rcases utf8EncodeChar_cases c with ⟨alone, single, -⟩ | high
  · rw [single] at isByte form
    cases form
    rwa [← List.mem_singleton.1 isByte]
  · have isHigh := high first (form ▸ List.mem_cons_self)
    have ascii : marks.all (fun n => n.toNat < 128) = true := by decide
    exact fun isMark => absurd (of_decide_eq_true (List.all_eq_true.1 ascii first isMark)) (Nat.not_lt.2 isHigh)

/-- At a byte that is no mark, the scan of the text before its character ends in the class that the scan of the whole
text visits the byte with. -/
theorem classAt_eq {b : UInt8} (here : (Text.bytes text)[i]? = some b) (plain : b ∉ marks) :
    (classes text)[i]? = some (classAt text i) ∧ (visits text)[i]? = some (i, b, classAt text i) := by
  have inside := (List.getElem?_eq_some_iff.1 here).1
  have isClass : (classes text)[i]? = some (classAt text i) := by
    rw [Text.bytes_eq_encode8, Text.length_encode8] at inside
    obtain ⟨before, c, after, chars, low, high⟩ := Text.exists_char_of_lt inside
    have bytes : Text.bytes text = Text.encode8 before ++ (String.utf8EncodeChar c ++ Text.encode8 after) := by
      rw [Text.bytes_eq_encode8, chars, Text.encode8_append]
      rfl
    have isByte : b ∈ String.utf8EncodeChar c := by
      rw [bytes, List.getElem?_append_right (by rw [Text.length_encode8]; exact low), Text.length_encode8,
        List.getElem?_append_left (by rw [String.length_utf8EncodeChar]; omega)] at here
      exact List.mem_of_getElem? here
    obtain ⟨first, others, form, isPlain⟩ := exists_first_plain isByte plain
    have start : (State.within .code).Expects (Text.encode8 before ++ first :: (others ++ Text.encode8 after)) :=
      trivial
    have isFirst := class_of_plain isPlain start
    rw [class_of_char chars low high, classAt, Text.upTo_of_char chars low high, Text.bytes_ofList,
      ← Text.length_encode8, ← isFirst, classes, classes.bytes, bytes, form]
    rfl
  refine ⟨isClass, ?_⟩
  rw [visits_eq, List.getElem?_zip_eq_some]
  exact ⟨List.getElem?_range inside, List.getElem?_zip_eq_some.2 ⟨here, isClass⟩⟩

/-- A string in which a letter of two bytes is escaped. -/
def escapedLetter : String :=
  "\"\\é\" + 'a'"

/-- The scan is cut between the backslash and the letter, also when it is asked for the second byte of the letter. -/
theorem classAt_escapedLetter : (Text.bytes escapedLetter)[3]? = some 169 ∧ 169 ∉ marks ∧
    (classes escapedLetter)[3]? = some (classAt escapedLetter 3) ∧
    (visits escapedLetter)[3]? = some (3, 169, classAt escapedLetter 3) := by
  have here : (Text.bytes escapedLetter)[3]? = some 169 := by decide +kernel
  have plain : (169 : UInt8) ∉ marks := by decide
  exact ⟨here, plain, classAt_eq here plain⟩

end Lexical

end ShaderAnalysis
