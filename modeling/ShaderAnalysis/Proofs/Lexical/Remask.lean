import ShaderAnalysis.Proofs.Lexical.Matching
import ShaderAnalysis.Proofs.Lexical.Scan

/-!
# Masked text is read again

Masking whole characters leaves text (`fromUTF8?_maskBytes`). Read again, that has code where the comments
were and the same classes elsewhere: in front of each byte the scanner of the masked text is where the other one
is, except that comments are code to it (`classesFrom_maskBytes`). So masking again changes nothing, and the
brackets are the same.
-/

namespace ShaderAnalysis

/-- The class of a byte once comments are masked. -/
def ByteClass.masked (c : ByteClass) : ByteClass :=
  if c.isComment then .code else c

namespace Lexical

/-! ## Masked characters -/

/-- What stands for a character of class `k` once comments are masked. -/
def maskChar (c : Char) (k : ByteClass) : List Char :=
  if k.isComment && c != '\n' && c != '\r' then List.replicate c.utf8Size ' ' else [c]

theorem encode8_replicate_space (n : Nat) : Text.encode8 (List.replicate n ' ') = List.replicate n 32 := by
  induction n with
  | zero => rfl
  | succ n ih => exact congrArg (32 :: ·) ih

theorem maskBytes_replicate (bs : List UInt8) (k : ByteClass) :
    maskBytes bs (List.replicate bs.length k) = bs.map (maskByte · k) := by
  induction bs with
  | nil => rfl
  | cons b bs ih => exact congrArg (maskByte b k :: ·) ih

/-- The bytes that masking keeps are characters of their own. -/
theorem eq_iff_of_mem_utf8EncodeChar {c d : Char} {b n : UInt8} (ascii : String.utf8EncodeChar d = [n])
    (code : n.toNat = d.toNat) (less : n.toNat < 128) (member : b ∈ String.utf8EncodeChar c) : b = n ↔ c = d := by
  constructor
  · rintro rfl
    exact Char.toNat_inj.1 ((Text.toNat_of_mem_utf8EncodeChar less member).trans code)
  · rintro rfl
    rw [ascii] at member
    exact List.mem_singleton.1 member

/-- Masking a character masks all of its bytes, or none. -/
theorem maskBytes_utf8EncodeChar (c : Char) (k : ByteClass) :
    maskBytes (String.utf8EncodeChar c) (List.replicate c.utf8Size k) = Text.encode8 (maskChar c k) := by
  have kept {b : UInt8} (member : b ∈ String.utf8EncodeChar c) : maskByte b k =
      if k.isComment && c != '\n' && c != '\r' then 32 else b := by
    have feed : b = 10 ↔ c = '\n' := eq_iff_of_mem_utf8EncodeChar (by decide) rfl (by decide) member
    have back : b = 13 ↔ c = '\r' := eq_iff_of_mem_utf8EncodeChar (by decide) rfl (by decide) member
    simp only [maskByte, bne, beq_eq_decide, feed, back]
  rw [← String.length_utf8EncodeChar, maskBytes_replicate, List.map_congr_left fun b member => kept member, maskChar]
  split
  · rw [encode8_replicate_space, ← String.length_utf8EncodeChar, List.map_const']
  · rw [List.map_id']
    exact (List.append_nil _).symm

theorem exists_maskBytes_eq (text : String) :
    ∃ cs : List Char, maskBytes (Text.bytes text) (classes text) = Text.encode8 cs := by
  obtain ⟨ks, length, isClasses⟩ := exists_classes_eq text
  refine ⟨(List.zipWith maskChar text.toList ks).flatten, ?_⟩
  rw [isClasses, Text.bytes_eq_encode8]
  generalize text.toList = cs at *
  clear isClasses
  induction cs generalizing ks with
  | nil => rfl
  | cons c cs ih =>
    cases ks with
    | nil => cases length
    | cons k ks =>
      have first := maskBytes_utf8EncodeChar c k
      have rest := ih ks (Nat.succ.inj length)
      rw [List.zipWith_cons_cons, List.zipWith_cons_cons, List.flatten_cons, List.flatten_cons, Text.encode8_append,
        ← first, ← rest, maskBytes, maskBytes, maskBytes, ← List.zipWith_append]
      · rfl
      · rw [String.length_utf8EncodeChar, List.length_replicate]

/-- What masking leaves is text, so that masking never has to give up. -/
theorem fromUTF8?_maskBytes (text : String) :
    String.fromUTF8? ⟨(maskBytes (Text.bytes text) (classes text)).toArray⟩ = some (mask text) := by
  obtain ⟨cs, isForm⟩ := exists_maskBytes_eq text
  have valid : ByteArray.IsValidUTF8 ⟨(maskBytes (Text.bytes text) (classes text)).toArray⟩ := by
    refine .intro cs (ByteArray.ext (Array.ext' ?_))
    rw [isForm, List.utf8Encode, List.toList_data_toByteArray]
    rfl
  rw [mask, maskWith, String.fromUTF8?, dif_pos valid, Option.getD_some]

theorem bytes_mask_eq (text : String) : Text.bytes (mask text) = maskBytes (Text.bytes text) (classes text) := by
  have valid := fromUTF8?_maskBytes text
  rw [String.fromUTF8?] at valid
  split at valid
  · rw [← Option.some.inj valid]
    rfl
  · cases valid

theorem maskByte_of_isComment {c : ByteClass} (isComment : c.isComment = true) (b : UInt8) :
    maskByte b c = 32 ∨ maskByte b c = 10 ∨ maskByte b c = 13 := by
  rw [maskByte, isComment]
  grind

/-- A byte of the masked text that cannot be what is left of a comment is none of a comment. -/
theorem isComment_eq_false_of_mask {text : String} {n : Nat} {b : UInt8} {c : ByteClass}
    (here : (Text.bytes (mask text))[n]? = some b) (solid : b ≠ 32 ∧ b ≠ 10 ∧ b ≠ 13)
    (isClass : (classes text)[n]? = some c) : c.isComment = false := by
  rw [bytes_mask_eq, maskBytes, List.getElem?_zipWith, isClass] at here
  rw [← Bool.not_eq_true]
  intro isComment
  cases original : (Text.bytes text)[n]? with
  | none =>
    rw [original] at here
    cases here
  | some byte =>
    rw [original] at here
    have left : maskByte byte c = b := Option.some.inj here
    rcases maskByte_of_isComment isComment byte with is | is | is
    · exact solid.1 (left.symm.trans is)
    · exact solid.2.1 (left.symm.trans is)
    · exact solid.2.2 (left.symm.trans is)

/-! ## The second scan -/

/-- Where the scanner of the masked text is when the scanner of the text is in state `s`: comments are code to it. -/
def State.masked : State → State
  | .within c => .within c.masked
  | .second this next => if this.isComment then .within .code else .second this next

/-- Whether the next byte is of a literal, or ends one. -/
def State.isLiteral (s : State) : Bool :=
  s.content = .string || s.content = .char

theorem isComment_step_of_isLiteral {s : State} {b : UInt8} {bs : List UInt8} (isLiteral : s.isLiteral = true)
    (expects : s.Expects (b :: bs)) (next : Option UInt8) : (step s b next).1.isComment = false := by
  cases s with
  | within content => cases content <;> simp only [step] <;> grind [State.isLiteral, State.content, ByteClass.isComment]
  | second this behind =>
    cases this <;> simp only [step] <;> grind [State.isLiteral, State.content, State.Expects, ByteClass.isComment]

/-- What is left of a comment is code to the scanner. -/
theorem step_maskByte {b : UInt8} {c : ByteClass} (isComment : c.isComment = true) (next : Option UInt8) :
    step (.within .code) (maskByte b c) next = (.code, .within .code) := by
  rcases maskByte_of_isComment isComment b with is | is | is <;> rw [is] <;> rfl

theorem masked_of_isComment {s : State} {b : UInt8} {bs : List UInt8} {next : Option UInt8}
    (expects : s.Expects (b :: bs)) (isComment : (step s b next).1.isComment = true) :
    s.masked = .within .code ∧ (step s b next).2.masked = .within .code := by
  cases s with
  | within content =>
    cases content <;> simp only [step] at isComment ⊢ <;>
      grind [State.masked, ByteClass.masked, ByteClass.isComment]
  | second this behind =>
    have same : this = behind ∨ behind = .code := expects.imp_right fun ends => ends.2.1
    have blank : this.isComment = true := isComment
    rcases same with rfl | rfl <;> simp [step, State.masked, ByteClass.masked, blank]

theorem step_masked_of_kept {s : State} {b : UInt8} {bs : List UInt8} {next next' : Option UInt8}
    (expects : s.Expects (b :: bs)) (other : (step s b next).1.isComment = false)
    (literal : (step s b next).2.isLiteral = true → next' = next) (orSpace : next' = next ∨ next' = some 32) :
    step s.masked b next' = ((step s b next).1, (step s b next).2.masked) := by
  cases s with
  | within content =>
    cases content with
    | code | line | block =>
      change step (.within .code) b next' = _
      simp only [step] at other literal ⊢
      grind [State.masked, ByteClass.masked, ByteClass.isComment]
    | string | char =>
      change step (.within _) b next' = _
      simp only [step] at other literal ⊢
      grind [State.masked, ByteClass.masked, ByteClass.isComment, State.isLiteral, State.content]
  | second this behind =>
    have isOther : this.isComment = false := other
    have same : this = behind := by
      rcases expects with same | ⟨rfl, -⟩
      · exact same
      · cases isOther
    subst same
    simp [State.masked, ByteClass.masked, isOther, step]

theorem maskByte_of_not_isComment {c : ByteClass} (other : c.isComment = false) (b : UInt8) : maskByte b c = b := by
  simp [maskByte, other]

theorem step_masked {s : State} {b : UInt8} {bs : List UInt8} {next next' : Option UInt8}
    (expects : s.Expects (b :: bs)) (literal : (step s b next).2.isLiteral = true → next' = next)
    (orSpace : next' = next ∨ next' = some 32) :
    step s.masked (maskByte b (step s b next).1) next' = ((step s b next).1.masked, (step s b next).2.masked) := by
  cases isComment : (step s b next).1.isComment with
  | true =>
    obtain ⟨before, behind⟩ := masked_of_isComment expects isComment
    rw [before, behind, step_maskByte isComment, ByteClass.masked, if_pos isComment]
  | false =>
    rw [maskByte_of_not_isComment isComment, step_masked_of_kept expects isComment literal orSpace, ByteClass.masked,
      isComment]
    rfl

/-- The byte in front is the same, or a space, and in a literal it is the same. -/
theorem head?_maskBytes {s : State} {bs : List UInt8} (expects : s.Expects bs) :
    ((maskBytes bs (classesFrom s bs)).head? = bs.head? ∨ (maskBytes bs (classesFrom s bs)).head? = some 32) ∧
      (s.isLiteral = true → (maskBytes bs (classesFrom s bs)).head? = bs.head?) := by
  cases bs with
  | nil => exact ⟨.inl rfl, fun _ => rfl⟩
  | cons b bs =>
    constructor
    · exact (maskByte_eq_or b _).imp (congrArg some) (congrArg some)
    · intro isLiteral
      have other := isComment_step_of_isLiteral isLiteral expects bs.head?
      exact congrArg some (maskByte_of_not_isComment other b)

/-- The scanner of the masked text finds code where the comments were, and what was there elsewhere. -/
theorem classesFrom_maskBytes {s : State} (bs : List UInt8) (expects : s.Expects bs) :
    classesFrom s.masked (maskBytes bs (classesFrom s bs)) = (classesFrom s bs).map ByteClass.masked := by
  induction bs generalizing s with
  | nil => rfl
  | cons b bs ih =>
    have further := expects_step s b bs
    obtain ⟨orSpace, literal⟩ := head?_maskBytes further
    have stepped := step_masked expects literal orSpace
    have cons : maskBytes (b :: bs) (classesFrom s (b :: bs)) = maskByte b (step s b bs.head?).1 ::
        maskBytes bs (classesFrom (step s b bs.head?).2 bs) := rfl
    rw [cons, classesFrom_cons, stepped, ih further, classesFrom_cons, List.map_cons]

theorem classes_mask (text : String) : classes (mask text) = (classes text).map ByteClass.masked := by
  have scanned : classesFrom (.within .code) (maskBytes (Text.bytes text) (classes text)) = _ :=
    classesFrom_maskBytes (s := .within .code) (Text.bytes text) trivial
  rw [← bytes_mask_eq] at scanned
  exact scanned

/-! ## What is left the same -/

theorem maskBytes_masked (bs : List UInt8) (cs : List ByteClass) (fits : bs.length = cs.length) :
    maskBytes bs (cs.map ByteClass.masked) = bs := by
  induction bs generalizing cs with
  | nil => rfl
  | cons b bs ih =>
    cases cs with
    | nil => cases fits
    | cons c cs =>
      have kept : maskByte b c.masked = b := by cases c <;> rfl
      have rest := ih cs (Nat.succ.inj fits)
      rw [maskBytes] at rest ⊢
      rw [List.map_cons, List.zipWith_cons_cons, kept, rest]

theorem length_bytes_mask (text : String) : (Text.bytes (mask text)).length = (Text.bytes text).length := by
  rw [bytes_mask_eq, maskBytes, List.length_zipWith, length_classes, Nat.min_self]

/-- Masking again changes nothing. -/
theorem mask_mask (text : String) : mask (mask text) = mask text := by
  have bytes : Text.bytes (mask (mask text)) = Text.bytes (mask text) := by
    rw [bytes_mask_eq (mask text), classes_mask]
    exact maskBytes_masked _ _ ((length_bytes_mask text).trans (length_classes text).symm)
  exact String.toByteArray_inj.1 (ByteArray.ext (Array.ext' bytes))

end Lexical

namespace Brackets

/-- A classified byte once comments are masked. -/
def masked (x : UInt8 × ByteClass) : UInt8 × ByteClass :=
  (Lexical.maskByte x.1 x.2, x.2.masked)

theorem step_masked_eq (size : Nat) (p : Pending) (offset : Nat) (x : UInt8 × ByteClass) :
    p.step size offset (masked x).1 (masked x).2 = p.step size offset x.1 x.2 := by
  obtain ⟨b, c⟩ := x
  cases isComment : c.isComment with
  | false =>
    have same : masked (b, c) = (b, c) := by
      rw [masked, Lexical.maskByte_of_not_isComment isComment, ByteClass.masked, isComment]
      rfl
    rw [same]
  | true =>
    -- neither the comment nor what is left of it has brackets
    have notCode : c ≠ .code := by
      rintro rfl
      cases isComment
    have blank := Lexical.maskByte_of_isComment isComment b
    rw [Pending.step_of_none (x := (b, c)) (if_neg notCode) (if_neg notCode), Pending.step_of_none]
    · rcases blank with is | is | is <;> rw [masked, is] <;> cases c <;> rfl
    · rcases blank with is | is | is <;> rw [masked, is] <;> cases c <;> rfl

theorem run_map_masked (size : Nat) (p : Pending) (offset : Nat) (bs : List (UInt8 × ByteClass)) :
    p.run size offset (bs.map masked) = p.run size offset bs := by
  induction bs generalizing p offset with
  | nil => rfl
  | cons x bs ih => rw [List.map_cons, Pending.run, step_masked_eq, ih, Pending.run]

theorem classified_mask (text : String) : classified (Lexical.mask text) = (classified text).map masked := by
  rw [classified, classified, Lexical.bytes_mask_eq, Lexical.classes_mask]
  generalize Text.bytes text = bs, Lexical.classes text = cs
  induction bs generalizing cs with
  | nil => rfl
  | cons b bs ih =>
    cases cs with
    | nil => rfl
    | cons c cs => exact congrArg (masked (b, c) :: ·) (ih cs)

/-- The masked text has the brackets of the text. -/
theorem ofText_mask (text : String) : ofText (Lexical.mask text) = ofText text := by
  have regions : ofBytes (classified (Lexical.mask text)) = ofBytes (classified text) := by
    rw [classified_mask, ofBytes, ofBytes, List.length_map, run_map_masked]
  exact regions

end Brackets

namespace Lexical

/-- The first text is the second one with blanks for its comments, and scans find nothing else changed in it. -/
structure IsMaskOf (masked text : String) : Prop where
  valid : String.fromUTF8? ⟨(maskBytes (Text.bytes text) (classes text)).toArray⟩ = some masked
  size : (Text.bytes masked).length = (Text.bytes text).length
  byte : ∀ (i : Nat) b c, (Text.bytes text)[i]? = some b → (classes text)[i]? = some c →
    (Text.bytes masked)[i]? = some (if c.isComment = true ∧ b ≠ 10 ∧ b ≠ 13 then 32 else b)
  classes : classes masked = (classes text).map ByteClass.masked
  again : mask masked = masked
  brackets : Brackets.ofText masked = Brackets.ofText text

theorem isMaskOf_mask (text : String) : IsMaskOf (mask text) text where
  valid := fromUTF8?_maskBytes text
  size := length_bytes_mask text
  byte := by
    intro i b c here isClass
    rw [bytes_mask_eq, maskBytes, List.getElem?_zipWith, here, isClass]
    simp [maskByte, and_assoc]
  classes := classes_mask text
  again := mask_mask text
  brackets := Brackets.ofText_mask text

/-- A scan that is never cancelled visits every byte once and in order, and all bytes of a character have one class;
masking with these classes gives a text, and later scans of that see no comments and otherwise the same. -/
theorem isMaskOf_maskScan (text : String) (asked : Nat) :
    scan .never asked text = .ok (classes text, asked + questions text) ∧
    visits text = (List.range (Text.bytes text).length).zip ((Text.bytes text).zip (classes text)) ∧
    (∃ ks : List ByteClass, ks.length = text.toList.length ∧
      classes text = (List.zipWith (fun c k => List.replicate c.utf8Size k) text.toList ks).flatten) ∧
    ∃ masked, maskScan .never asked text = .ok (masked, asked + questions text) ∧ IsMaskOf masked text := by
  have scanned : scan .never asked text = .ok (classes text, asked + questions text) := by
    rw [scan, Oracle.cancelsWithin_never]
    rfl
  refine ⟨scanned, visits_eq text, exists_classes_eq text, mask text, ?_, isMaskOf_mask text⟩
  rw [maskScan, scanned]
  rfl

/-- A comment in a string stays, and so does the line break of a comment. -/
example : mask "f(\"//\"); // é\r\n/*\n*/x" = "f(\"//\");      \r\n  \n  x" := by
  decide +kernel

end Lexical

end ShaderAnalysis
