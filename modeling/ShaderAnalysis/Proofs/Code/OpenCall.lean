import ShaderAnalysis.Proofs.Code.CallSite
import ShaderAnalysis.Proofs.Lexical.Fitting
import ShaderAnalysis.Proofs.Lexical.Remask

/-!
# Open calls and bracket regions

Going back from a cursor counts parentheses, commas and statement ends wherever no comment is, while a bracket
region only has the brackets of the code. Over well nested brackets the two agree up to what stands in literals
(`openByte?_reverse`): parentheses in them would shift the count of levels, commas count as if they were code,
and a semicolon or brace means that there is no call (`at?_eq_of_isInCall`).
-/

namespace ShaderAnalysis.CallSite

open Brackets Text

/-! ## Bytes -/

/-- `openParenthesis?` on bytes, with the number of bytes in front of the parenthesis. -/
def openByte? (depth commas : Nat) : List UInt8 → Option (Nat × Nat)
  | [] => none
  | b :: bs =>
    if b = 41 then openByte? (depth + 1) commas bs
    else if b = 40 then
      if depth = 0 then some (commas, bs.length) else openByte? (depth - 1) commas bs
    else if depth = 0 ∧ b = 44 then openByte? depth (commas + 1) bs
    else if depth = 0 ∧ (b = 59 ∨ b = 123 ∨ b = 125) then none
    else openByte? depth commas bs

/-- Bytes of characters that are not ASCII are passed over. -/
theorem openByte?_append_of_high {high : List UInt8} (isHigh : ∀ b ∈ high, 128 ≤ b.toNat) (depth commas : Nat)
    (bs : List UInt8) : openByte? depth commas (high ++ bs) = openByte? depth commas bs := by
  induction high with
  | nil => rfl
  | cons b high ih =>
    obtain ⟨first, rest⟩ := List.forall_mem_cons.1 isHigh
    have other (n : UInt8) (ascii : n.toNat < 128) : b ≠ n := by
      rintro rfl
      omega
    rw [List.cons_append, openByte?]
    simp [other, ih rest]

theorem reverse_encode8_concat (c : Char) (cs : List Char) :
    (encode8 (cs ++ [c])).reverse = (String.utf8EncodeChar c).reverse ++ (encode8 cs).reverse := by
  rw [encode8_append, List.reverse_append]
  congr 2
  exact List.append_nil _

/-- Going back through the bytes of a text is going back through the text. -/
theorem openByte?_eq (depth commas : Nat) (cs : List Char) :
    openByte? depth commas (encode8 cs.reverse).reverse =
      (openParenthesis? depth commas cs).map fun site => (site.1, length8 site.2.reverse) := by
  induction cs generalizing depth commas with
  | nil => rfl
  | cons c cs ih =>
    rw [List.reverse_cons, reverse_encode8_concat, openParenthesis?]
    rcases Lexical.utf8EncodeChar_cases c with ⟨b, encoded, -⟩ | high
    · have member : b ∈ String.utf8EncodeChar c := by rw [encoded]; exact List.mem_singleton_self b
      have same {d : Char} {n : UInt8} (ascii : String.utf8EncodeChar d = [n]) (code : n.toNat = d.toNat)
          (less : n.toNat < 128) : b = n ↔ c = d := Lexical.eq_iff_of_mem_utf8EncodeChar ascii code less member
      have close : b = 41 ↔ c = ')' := same rfl rfl (by decide)
      have opens : b = 40 ↔ c = '(' := same rfl rfl (by decide)
      have comma : b = 44 ↔ c = ',' := same rfl rfl (by decide)
      have semicolon : b = 59 ↔ c = ';' := same rfl rfl (by decide)
      have left : b = 123 ↔ c = '\x7b' := same rfl rfl (by decide)
      have right : b = 125 ↔ c = '\x7d' := same rfl rfl (by decide)
      rw [encoded, List.reverse_singleton, List.singleton_append, openByte?]
      simp only [close, opens, comma, semicolon, left, right, ih, List.length_reverse, length_encode8]
      split
      · rfl
      split
      · split <;> rfl
      split
      · rfl
      split <;> rfl
    · have other {d : Char} {n : UInt8} (ascii : String.utf8EncodeChar d = [n]) (less : n.toNat < 128) : c ≠ d := by
        rintro rfl
        have := high n (by rw [ascii]; exact List.mem_singleton_self n)
        omega
      rw [openByte?_append_of_high (fun b member => high b (List.mem_reverse.1 member)), ih]
      simp only [@other ')' 41 rfl (by decide), @other '(' 40 rfl (by decide), @other ',' 44 rfl (by decide),
        @other ';' 59 rfl (by decide), @other '\x7b' 123 rfl (by decide), @other '\x7d' 125 rfl (by decide), and_false,
        or_self, if_false]

/-! ## Marks -/

/-- Whether a byte belongs to a string or a character literal. -/
def isInLiteral (x : UInt8 × ByteClass) : Bool :=
  x.2 == .string || x.2 == .char

/-- The byte is no parenthesis in a literal. -/
def IsPlain (x : UInt8 × ByteClass) : Prop :=
  isInLiteral x = true → x.1 ≠ 40 ∧ x.1 ≠ 41

/-- A comma that is not in a comment. -/
def isComma (x : UInt8 × ByteClass) : Bool :=
  x.1 == 44 && !x.2.isComment

/-- A comma of the code. -/
def isCodeComma (x : UInt8 × ByteClass) : Bool :=
  x.1 == 44 && x.2 == .code

/-- What ends a statement, outside comments: a semicolon, the opener of braces, or a closing brace in a literal. -/
def isStop (x : UInt8 × ByteClass) : Bool :=
  !x.2.isComment && (x.1 == 59 || x.1 == 123 || x.1 == 125 && x.2 != .code)

theorem closed?_of_isComma (x : UInt8 × ByteClass) (mark : isComma x = true) : closed? x = none := by
  simp only [isComma, Bool.and_eq_true, beq_iff_eq] at mark
  simp [closed?, BracketKind.closedBy?, mark.1]

theorem closed?_of_isStop (x : UInt8 × ByteClass) (mark : isStop x = true) : closed? x = none := by
  simp only [isStop, Bool.and_eq_true, Bool.or_eq_true, beq_iff_eq, bne_iff_ne] at mark
  rcases mark.2 with (is | is) | ⟨-, other⟩
  · simp [closed?, BracketKind.closedBy?, is]
  · simp [closed?, BracketKind.closedBy?, is]
  · rw [closed?, if_neg other]

/-- A byte with comments masked. -/
def visible (x : UInt8 × ByteClass) : UInt8 :=
  Lexical.maskByte x.1 x.2

variable {x : UInt8 × ByteClass} {w : List (UInt8 × ByteClass)}

/-- What a byte that is no bracket does on the way back. -/
theorem openByte?_plain (opens : opened? x = none) (closes : closed? x = none)
    (plain : IsPlain x) (depth commas : Nat) (rest : List UInt8) :
    openByte? depth commas (visible x :: rest) =
      if depth = 0 ∧ isStop x = true then none
      else openByte? depth (commas + if depth = 0 ∧ isComma x = true then 1 else 0) rest := by
  cases isComment : x.2.isComment with
  | true =>
    have passed : openByte? depth commas (visible x :: rest) = openByte? depth commas rest := by
      rw [visible]
      rcases Lexical.maskByte_of_isComment isComment x.1 with is | is | is <;> rw [is, openByte?] <;> simp
    simp [passed, isStop, isComma, isComment]
  | false =>
    have isSame : visible x = x.1 := Lexical.maskByte_of_not_isComment isComment x.1
    have noParenthesis : x.1 ≠ 40 ∧ x.1 ≠ 41 := by
      cases isCode : x.2 with
      | code =>
        constructor <;> intro is
        · simp [opened?, isCode, is, BracketKind.openedBy?] at opens
        · simp [closed?, isCode, is, BracketKind.closedBy?] at closes
      | string => exact plain (by simp [isInLiteral, isCode])
      | char => exact plain (by simp [isInLiteral, isCode])
      | line => simp [isCode, ByteClass.isComment] at isComment
      | block => simp [isCode, ByteClass.isComment] at isComment
    have noBrace : x.1 = 125 → x.2 ≠ .code := by
      intro is isCode
      simp [closed?, isCode, is, BracketKind.closedBy?] at closes
    rw [isSame, openByte?, if_neg noParenthesis.2, if_neg noParenthesis.1]
    by_cases isTop : depth = 0
    · by_cases comma : x.1 = 44
      · simp [isTop, comma, isStop, isComma, isComment]
      · by_cases brace : x.1 = 125
        · simp [isTop, brace, noBrace brace, isStop, isComment]
        · simp [isTop, comma, brace, isStop, isComma, isComment]
    · simp [isTop]

theorem visible_of_opened? {kind : BracketKind} (opens : opened? x = some kind) :
    visible x = x.1 ∧
      (kind = .paren ∧ x.1 = 40 ∧ isStop x = false ∨ kind = .brace ∧ x.1 = 123 ∧ isStop x = true) ∧
      isComma x = false := by
  unfold opened? BracketKind.openedBy? at opens
  split at opens
  · rename_i isCode
    have isSame : visible x = x.1 := by simp [visible, Lexical.maskByte, isCode, ByteClass.isComment]
    split at opens
    · rename_i is
      cases opens
      simp [isSame, is, isStop, isComma]
    · split at opens
      · rename_i is
        cases opens
        simp [isSame, is, isStop, isComma, isCode, ByteClass.isComment]
      · cases opens
  · cases opens

theorem visible_of_closed? {kind : BracketKind} (closes : closed? x = some kind) :
    visible x = x.1 ∧ (kind = .paren ∧ x.1 = 41 ∨ kind = .brace ∧ x.1 = 125) := by
  unfold closed? BracketKind.closedBy? at closes
  split at closes
  · rename_i isCode
    have isSame : visible x = x.1 := by simp [visible, Lexical.maskByte, isCode, ByteClass.isComment]
    split at closes
    · rename_i is
      cases closes
      exact ⟨isSame, .inl ⟨rfl, is⟩⟩
    · split at closes
      · rename_i is
        cases closes
        exact ⟨isSame, .inr ⟨rfl, is⟩⟩
      · cases closes
  · cases closes

/-! ## Going back over well nested brackets -/

/-- Inside parentheses braces are passed over. -/
theorem openByte?_of_brace {b : UInt8} (isBrace : b = 123 ∨ b = 125) (depth commas : Nat) (rest : List UInt8) :
    openByte? (depth + 1) commas (b :: rest) = openByte? (depth + 1) commas rest := by
  rcases isBrace with rfl | rfl <;> simp [openByte?]

/-- Inside parentheses well nested brackets are passed over. -/
theorem openByte?_reverse_succ (nested : WellNested w)
    (plain : ∀ x ∈ w, IsPlain x) (depth commas : Nat) (rest : List UInt8) :
    openByte? (depth + 1) commas ((w.map visible).reverse ++ rest) = openByte? (depth + 1) commas rest := by
  induction nested generalizing depth rest with
  | nil => rfl
  | @plain x w opens closes _ ih =>
    obtain ⟨first, later⟩ := List.forall_mem_cons.1 plain
    rw [List.map_cons, List.reverse_cons, List.append_assoc, List.singleton_append, ih later,
      openByte?_plain opens closes first]
    simp
  | @pair opener closer kind inner behind opens between closes _ ihBetween ihBehind =>
    have plainInner : ∀ x ∈ inner, IsPlain x := fun x member => plain x (by simp [member])
    have plainBehind : ∀ x ∈ behind, IsPlain x :=
      fun x member => plain x (by simp [member])
    simp only [List.map_cons, List.map_append, List.reverse_cons, List.reverse_append, List.append_assoc,
      List.nil_append, List.cons_append]
    rw [ihBehind plainBehind]
    obtain ⟨shown, marks, -⟩ := visible_of_opened? opens
    obtain ⟨shown', marks'⟩ := visible_of_closed? closes
    rcases marks with ⟨rfl, isOpener, -⟩ | ⟨rfl, isOpener, -⟩
    · have isCloser : closer.1 = 41 := by simpa using marks'
      rw [shown', isCloser, openByte?, if_pos rfl, ihBetween plainInner, shown, isOpener, openByte?]
      simp
    · have isCloser : closer.1 = 125 := by simpa using marks'
      rw [shown', isCloser, openByte?_of_brace (.inr rfl), ihBetween plainInner, shown, isOpener,
        openByte?_of_brace (.inl rfl)]

/-- Directly behind an opener, well nested brackets give their commas, unless a statement ends among them. -/
theorem openByte?_reverse (nested : WellNested w) (plain : ∀ x ∈ w, IsPlain x)
    {id : Nat} (size offset : Nat) {p : Pending} (old : id < p.regions.size) (top : p.stack.headD 0 = id) (commas : Nat)
    (rest : List UInt8) :
    openByte? 0 commas ((w.map visible).reverse ++ rest) =
      if countTop isStop id size p offset w = 0 then
        openByte? 0 (commas + countTop isComma id size p offset w) rest
      else none := by
  induction nested generalizing p offset rest with
  | nil => rfl
  | @plain x w opens closes _ ih =>
    obtain ⟨first, later⟩ := List.forall_mem_cons.1 plain
    rw [List.map_cons, List.reverse_cons, List.append_assoc, List.singleton_append,
      ih later (offset + 1) old top, openByte?_plain opens closes first, countTop, countTop,
      Pending.step_of_none opens closes]
    simp only [top, true_and, beq_self_eq_true, Bool.and_true]
    by_cases stops : isStop x = true
    · simp [stops]
    · simp only [stops, Bool.false_eq_true, if_false, Nat.zero_add]
      congr 2
      omega
  | @pair opener closer kind inner behind opens between closes _ ihBetween ihBehind =>
    have plainInner : ∀ x ∈ inner, IsPlain x := fun x member => plain x (by simp [member])
    have plainBehind : ∀ x ∈ behind, IsPlain x :=
      fun x member => plain x (by simp [member])
    obtain ⟨stack, grows⟩ := (WellNested.block opens between closes).stack_run size offset p
    obtain ⟨shown, marks, noComma⟩ := visible_of_opened? opens
    obtain ⟨shown', marks'⟩ := visible_of_closed? closes
    rw [List.append_cons, ← List.cons_append, countTop_append, countTop_append,
      countTop_pair closed?_of_isStop opens between closes old top,
      countTop_pair closed?_of_isComma opens between closes old top, List.map_append, List.reverse_append,
      List.append_assoc, ihBehind plainBehind (offset + (opener :: (inner ++ [closer])).length)
        (p := p.run size offset (opener :: (inner ++ [closer]))) (by omega) (by rw [stack]; exact top)]
    simp only [List.map_cons, List.map_append, List.map_nil, List.reverse_cons, List.reverse_append, List.append_assoc,
      List.reverse_nil, List.nil_append, List.cons_append]
    rcases marks with ⟨rfl, isOpener, noStop⟩ | ⟨rfl, isOpener, stops⟩
    · have isCloser : closer.1 = 41 := by simpa using marks'
      rw [shown', isCloser, openByte?, if_pos rfl, openByte?_reverse_succ between plainInner, shown, isOpener,
        openByte?]
      simp [noStop, noComma]
    · have isCloser : closer.1 = 125 := by simpa using marks'
      rw [shown', isCloser, openByte?]
      simp [stops]

/-! ## Calls -/

/-- What is read ends in the arguments of a call: its closers fit, region `id` is the innermost one that is still
open and is in parentheses, no semicolon of the code and no braces lie directly in it, and the word in front of it,
behind `before`, can be called. -/
structure IsInCall (read : String) (id : Nat) (r : Region) (before name : List Char) : Prop where
  fits : closersFit [] (classified read) = true
  innermost : (ofText read).IsInnermostOpen id r
  isParen : r.kind = .paren
  noSemicolon : ∀ i, (classified read)[i]? = some (59, .code) → (ofText read).innermostAt i ≠ id
  noBraces : ∀ (other : Nat) s, (ofText read).regions[other]? = some s → s.parent = some id → s.kind ≠ .brace
  word : ∃ blanks arguments, (Lexical.mask read).toList = (before ++ (name ++ blanks)) ++ '(' :: arguments ∧
    length8 (before ++ (name ++ blanks)) = r.start ∧ IsNameBefore before name blanks
  callable : isCallable (String.ofList name) = true

/-- The bytes of a masked text. -/
theorem bytes_mask_eq_map (text : String) : bytes (Lexical.mask text) = (classified text).map visible := by
  rw [Lexical.bytes_mask_eq, Lexical.maskBytes, classified, List.zip, List.map_zipWith]
  rfl

/-- The parenthesis that is open at the end of a text, with the bytes in front of it. -/
theorem openParenthesis?_of_openByte? {cs front arguments : List Char} (parts : cs = front ++ '(' :: arguments)
    {commas : Nat} (found : openByte? 0 0 (encode8 cs).reverse = some (commas, length8 front)) :
    openParenthesis? 0 0 cs.reverse = some (commas, front.reverse) := by
  have found' := openByte?_eq 0 0 cs.reverse
  rw [List.reverse_reverse, found] at found'
  obtain ⟨⟨commas', rest⟩, isOpen, same⟩ := Option.map_eq_some_iff.1 found'.symm
  simp only [Prod.mk.injEq] at same
  obtain ⟨rfl, same⟩ := same
  have isOpen' : openParenthesis? 0 0 cs.reverse = some (commas', rest.reverse.reverse) := by
    rw [List.reverse_reverse, isOpen]
  obtain ⟨passed, parts', -⟩ := openParenthesis?_reverse_eq_some_iff.1 ⟨commas', isOpen'⟩
  have begins := isPrefix_of_length8_le (parts'.symm.trans parts) (Nat.le_of_eq same)
  have begins' := isPrefix_of_length8_le (parts.symm.trans parts') (Nat.le_of_eq same.symm)
  rw [isOpen', List.IsPrefix.eq_of_length_le begins begins'.length_le]

section Call

variable {read : String} {id : Nat} {r : Region} {before name : List Char} (call : IsInCall read id r before name)
  (plain : ∀ i x, r.start < i → (classified read)[i]? = some x → IsPlain x)

include call plain

/-- Going back from the end finds the opener of the innermost open region, with all commas directly in that, unless
a statement ends in it. -/
theorem IsInCall.openByte?_eq : openByte? 0 0 (bytes (Lexical.mask read)).reverse =
    if (ofText read).countIn (classified read) id isStop = 0 then
      some ((ofText read).countIn (classified read) id isComma, r.start)
    else none := by
  have innermost : (ofBytes (classified read)).IsInnermostOpen id r := call.innermost
  obtain ⟨front, opener, w, parts, starts, opens, nested, old, top⟩ := exists_level_of_closersFit call.fits innermost
  have plainBehind : ∀ x ∈ w, IsPlain x := by
    intro x member
    obtain ⟨i, here⟩ := List.mem_iff_getElem?.1 member
    refine plain (front.length + (i + 1)) x (by omega) ?_
    rw [parts, List.getElem?_append_right (by omega), Nat.add_sub_cancel_left, List.getElem?_cons_succ, here]
  have stops : (ofText read).countIn (classified read) id isStop =
      countTop isStop id (classified read).length (pendingAfter (classified read).length (front ++ [opener]))
        (front.length + 1) w :=
    countIn_eq closed?_of_isStop innermost.bracketed innermost.here starts parts
  have commas : (ofText read).countIn (classified read) id isComma =
      countTop isComma id (classified read).length (pendingAfter (classified read).length (front ++ [opener]))
        (front.length + 1) w :=
    countIn_eq closed?_of_isComma innermost.bracketed innermost.here starts parts
  obtain ⟨shown, marks, -⟩ := visible_of_opened? opens
  have isOpener : opener.1 = 40 := by
    rcases marks with ⟨-, is, -⟩ | ⟨isBrace, -⟩
    · exact is
    · rw [call.isParen] at isBrace
      cases isBrace
  have bytes : (bytes (Lexical.mask read)).reverse =
      (w.map visible).reverse ++ 40 :: (front.map visible).reverse := by
    rw [bytes_mask_eq_map, parts, List.map_append, List.map_cons, shown, isOpener, List.reverse_append,
      List.reverse_cons, List.append_assoc, List.singleton_append]
  rw [bytes, openByte?_reverse nested plainBehind (classified read).length (front.length + 1) old top, ← stops,
    ← commas, Nat.zero_add, openByte?]
  simp [starts]

/-- The call that is read into is found by its word, with all the commas directly in its parentheses as the number
of the argument: none is found where a statement ends directly in them, and there is no answer where the character
in front of the word is not ASCII. -/
theorem at?_eq_of_isInCall {text : String} {offset : Nat} (upTo_eq : upTo text offset = read) :
    at? text offset =
      if (ofText read).countIn (classified read) id isStop ≠ 0 then .ok none
      else if endsInAscii before = true then
        .ok (some ⟨String.ofList name, (ofText read).countIn (classified read) id isComma⟩)
      else .error .insideCharacter := by
  obtain ⟨blanks, arguments, parts, starts, isName⟩ := call.word
  have found := call.openByte?_eq plain
  rw [bytes_eq_encode8] at found
  rw [at?, upTo_eq]
  split at found
  · rename_i noStop
    rw [← starts] at found
    rw [openParenthesis?_of_openByte? parts found, if_neg (not_not_intro noStop)]
    dsimp only
    rw [nameBefore_eq isName]
    split
    · show Except.ok _ = _
      rw [if_pos call.callable]
    · rfl
  · rename_i stops
    have found' := CallSite.openByte?_eq 0 0 (Lexical.mask read).toList.reverse
    rw [List.reverse_reverse, found] at found'
    rw [if_pos stops, Option.map_eq_none_iff.1 found'.symm]

end Call

/-- Whether a byte is a comma, semicolon or brace in a literal. -/
def isLiteralMark (x : UInt8 × ByteClass) : Bool :=
  isInLiteral x && (x.1 == 44 || x.1 == 59 || x.1 == 123 || x.1 == 125)

/-- The only statement ends directly in the parentheses of a call are in literals. -/
theorem IsInCall.countIn_isStop_iff {read : String} {id : Nat} {r : Region} {before name : List Char}
    (call : IsInCall read id r before name) : (ofText read).countIn (classified read) id isStop = 0 ↔
      ∀ i x, (classified read)[i]? = some x → isInLiteral x = true → x.1 = 59 ∨ x.1 = 123 ∨ x.1 = 125 →
        (ofText read).innermostAt i ≠ id := by
  rw [countIn_eq_zero_iff]
  constructor
  · intro none i x here inLiteral mark
    refine none i x here ?_
    obtain ⟨b, c⟩ := x
    cases c <;> simp_all [isStop, isInLiteral, ByteClass.isComment, or_assoc]
  · rintro none i ⟨b, c⟩ here stops isInnermost
    have arena : (ofText read).IsArenaOf (classified read) := isArenaOf_ofBytes (classified read)
    cases c with
    | code =>
      have mark : b = 59 ∨ b = 123 := by simpa [isStop, ByteClass.isComment] using stops
      rcases mark with rfl | rfl
      · exact call.noSemicolon i here isInnermost
      · obtain ⟨other, s, bracketed, there, start, kind⟩ := arena.opened i .brace (by rw [here]; rfl)
        have isParent := arena.parent_eq bracketed there
        rw [start, isInnermost] at isParent
        exact call.noBraces other s there isParent kind
    | string => exact none i _ here rfl (by simpa [isStop, ByteClass.isComment, or_assoc] using stops) isInnermost
    | char => exact none i _ here rfl (by simpa [isStop, ByteClass.isComment, or_assoc] using stops) isInnermost
    | line => simp [isStop, ByteClass.isComment] at stops
    | block => simp [isStop, ByteClass.isComment] at stops

/-- Where no literal behind the parenthesis has one in it, the call that is read into is found with the commas of
the code as the number of the argument if and only if the character in front of its word is ASCII, and no comma,
semicolon or brace in a literal stands directly in its parentheses. -/
theorem at?_counts_code_iff {text : String} {offset id : Nat} {r : Region} {before name : List Char}
    (call : IsInCall (upTo text offset) id r before name)
    (plain : ∀ i x, r.start < i → (classified (upTo text offset))[i]? = some x → IsPlain x) :
    at? text offset = .ok (some ⟨String.ofList name,
        (ofText (upTo text offset)).countIn (classified (upTo text offset)) id isCodeComma⟩) ↔
      (∀ c ∈ before.getLast?, c.toNat < 128) ∧ ∀ i x, (classified (upTo text offset))[i]? = some x →
        isLiteralMark x = true → (ofText (upTo text offset)).innermostAt i ≠ id := by
  have answer := at?_eq_of_isInCall call plain rfl
  have stops := call.countIn_isStop_iff
  generalize ofText (upTo text offset) = t at *
  generalize classified (upTo text offset) = bs at *
  have commas : t.countIn bs id isComma =
      t.countIn bs id isCodeComma + t.countIn bs id (fun x => isInLiteral x && x.1 == 44) := by
    refine countIn_add (fun x => ?_) (fun x isCode => ?_)
    · obtain ⟨b, c⟩ := x
      cases c <;> simp [isComma, isCodeComma, isInLiteral, ByteClass.isComment]
    · obtain ⟨b, c⟩ := x
      cases c <;> simp_all [isCodeComma, isInLiteral]
  have marks : (∀ i x, bs[i]? = some x → isLiteralMark x = true → t.innermostAt i ≠ id) ↔
      t.countIn bs id isStop = 0 ∧ t.countIn bs id (fun x => isInLiteral x && x.1 == 44) = 0 := by
    rw [stops, countIn_eq_zero_iff]
    simp only [isLiteralMark, Bool.and_eq_true, Bool.or_eq_true, beq_iff_eq]
    constructor
    · intro none
      refine ⟨fun i x here inLiteral mark => none i x here ⟨inLiteral, ?_⟩,
        fun i x here mark => none i x here ⟨mark.1, by simp [mark.2]⟩⟩
      rcases mark with is | is | is <;> simp [is]
    · rintro ⟨noStop, noComma⟩ i x here ⟨inLiteral, ((mark | mark) | mark) | mark⟩
      · exact noComma i x here ⟨inLiteral, mark⟩
      all_goals exact noStop i x here inLiteral (by simp [mark])
  rw [answer, marks, commas, ← endsInAscii_iff]
  by_cases noStop : t.countIn bs id isStop = 0
  · rw [if_neg (not_not_intro noStop)]
    by_cases ascii : endsInAscii before = true
    · rw [if_pos ascii]
      simp only [Except.ok.injEq, Option.some.injEq, CallSite.mk.injEq, true_and]
      constructor
      · intro same
        exact ⟨ascii, noStop, by omega⟩
      · rintro ⟨-, -, none⟩
        omega
    · rw [if_neg ascii]
      exact iff_of_false (fun found => by cases found) fun holds => ascii holds.1
  · rw [if_pos noStop]
    exact iff_of_false (fun found => by cases found) fun holds => noStop holds.2.1

/-! ## Calls of one argument -/

/-- A name, a parenthesis that is still open, and what has no other bracket and no semicolon. -/
theorem isInCall_of_regions {read : String} {size start : Nat} {name arguments : List Char}
    (regions : (ofText read).regions =
      #[⟨0, size, .root, true, none, [1]⟩, ⟨start, size, .paren, false, some 0, []⟩])
    (fits : closersFit [] (classified read) = true) (noSemicolon : (59, ByteClass.code) ∉ classified read)
    (parts : (Lexical.mask read).toList = name ++ '(' :: arguments) (starts : length8 name = start)
    (ident : ∀ c ∈ name, isIdentChar c = true) (callable : isCallable (String.ofList name) = true) :
    IsInCall read 1 ⟨start, size, .paren, false, some 0, []⟩ [] name where
  fits := fits
  innermost := by
    refine ⟨Nat.one_pos, by rw [regions]; rfl, rfl, fun other s less there => ?_⟩
    rw [regions, Array.getElem?_eq_none (Nat.succ_le_of_lt less)] at there
    cases there
  isParen := rfl
  noSemicolon := fun i here => absurd (List.mem_of_getElem? here) noSemicolon
  noBraces := by
    intro other s there isParent
    rw [regions] at there
    rcases other with _ | _ | other
    · cases there
      cases isParent
    · cases there
      cases isParent
    · cases there
  word := by
    refine ⟨[], arguments, by simpa using parts, by simpa using starts, ident, areBlank_nil, ?_⟩
    intro c member
    cases member
  callable := callable

/-- A literal without marks does not change the number of the argument. -/
theorem at?_counts_code_behind_literal :
    IsInCall (upTo "foo(\"a\", " 9) 1 ⟨3, 9, .paren, false, some 0, []⟩ [] ['f', 'o', 'o'] ∧
      at? "foo(\"a\", " 9 = .ok (some ⟨"foo", 1⟩) := by
  have call : IsInCall (upTo "foo(\"a\", " 9) 1 ⟨3, 9, .paren, false, some 0, []⟩ [] ['f', 'o', 'o'] :=
    isInCall_of_regions (by decide +kernel) (by decide +kernel) (by decide +kernel)
      (by decide +kernel : _ = ['f', 'o', 'o'] ++ '(' :: ['"', 'a', '"', ',', ' ']) rfl
      (List.all_eq_true.1 rfl) (by decide +kernel)
  refine ⟨call, ?_⟩
  have plain : ∀ x ∈ classified (upTo "foo(\"a\", " 9), isInLiteral x = true →
      x.1 ≠ 40 ∧ x.1 ≠ 41 ∧ isLiteralMark x = false := by
    decide +kernel
  have one : (ofText (upTo "foo(\"a\", " 9)).countIn (classified (upTo "foo(\"a\", " 9)) 1 isCodeComma = 1 := by
    decide +kernel
  have counts := (at?_counts_code_iff call fun i x _ here inLiteral =>
    ⟨(plain x (List.mem_of_getElem? here) inLiteral).1, (plain x (List.mem_of_getElem? here) inLiteral).2.1⟩).2
  rw [one] at counts
  refine counts ⟨by simp, fun i x here mark => ?_⟩
  have inLiteral : isInLiteral x = true := by
    simp only [isLiteralMark, Bool.and_eq_true] at mark
    exact mark.1
  rw [(plain x (List.mem_of_getElem? here) inLiteral).2.2] at mark
  cases mark

/-- A comma in a literal is counted, although its innermost region has only one comma of the code. -/
theorem at?_counts_comma_in_literal :
    IsInCall (upTo "foo(\",\", " 9) 1 ⟨3, 9, .paren, false, some 0, []⟩ [] ['f', 'o', 'o'] ∧
      (ofText (upTo "foo(\",\", " 9)).countIn (classified (upTo "foo(\",\", " 9)) 1 isCodeComma = 1 ∧
      at? "foo(\",\", " 9 = .ok (some ⟨"foo", 2⟩) := by
  refine ⟨?_, by decide +kernel, by decide +kernel⟩
  exact isInCall_of_regions (by decide +kernel) (by decide +kernel) (by decide +kernel)
    (by decide +kernel : _ = ['f', 'o', 'o'] ++ '(' :: ['"', ',', '"', ',', ' ']) rfl
      (List.all_eq_true.1 rfl) (by decide +kernel)

end ShaderAnalysis.CallSite
