import ShaderAnalysis.Document.Basic
import ShaderAnalysis.Proofs.Text.Cut

/-!
# Where lines start

A line starts at the beginning of a text and behind each line feed. `splitAtLine` cuts a text there, be
it a list of characters, of bytes or of code units: an encoding that keeps line feeds apart from all else
keeps the cuts (`splitAtLine_flatMap`). The offsets in the table of a text are those of its lines
(`lineStartsOf_getElem?`, `isLineTable_lineStartsOf`).
-/

namespace ShaderAnalysis.Text

/-! ## Cutting at a line -/

section Split

variable {α β : Type} {isFeed : α → Bool}

/-- The part of a text before a line, and the text from that line on; none if it has fewer lines. -/
def splitAtLine (isFeed : α → Bool) : Nat → List α → Option (List α × List α)
  | 0, xs => some ([], xs)
  | _ + 1, [] => none
  | line + 1, x :: xs =>
    (splitAtLine isFeed (if isFeed x then line else line + 1) xs).map fun (before, rest) => (x :: before, rest)

/-- The first line of a text, with its line feed. -/
def firstLine (isFeed : α → Bool) (xs : List α) : List α :=
  match splitAtLine isFeed 1 xs with
  | some (line, _) => line
  | none => xs

@[simp] theorem splitAtLine_zero (xs : List α) : splitAtLine isFeed 0 xs = some ([], xs) := by
  rw [splitAtLine]

theorem append_of_splitAtLine {line : Nat} {xs before rest : List α}
    (h : splitAtLine isFeed line xs = some (before, rest)) : before ++ rest = xs := by
  fun_induction splitAtLine isFeed line xs generalizing before rest with
  | case1 xs => cases h; rfl
  | case2 line => cases h
  | case3 line x xs ih =>
    obtain ⟨⟨b, r⟩, tail, equal⟩ := Option.map_eq_some_iff.1 h
    cases equal
    rw [List.cons_append, ih tail]

/-- What comes behind a text moves no cut inside it. -/
theorem splitAtLine_append {line : Nat} {xs before rest : List α}
    (h : splitAtLine isFeed line xs = some (before, rest)) (ys : List α) :
    splitAtLine isFeed line (xs ++ ys) = some (before, rest ++ ys) := by
  fun_induction splitAtLine isFeed line xs generalizing before rest with
  | case1 xs =>
    cases h
    exact splitAtLine_zero _
  | case2 line => cases h
  | case3 line x xs ih =>
    obtain ⟨⟨b, r⟩, tail, equal⟩ := Option.map_eq_some_iff.1 h
    cases equal
    rw [List.cons_append, splitAtLine, ih tail]
    rfl

/-- A text has a line for each line feed, and one more, in which it ends. -/
theorem exists_splitAtLine_countP (xs : List α) :
    ∃ before here, splitAtLine isFeed (xs.countP isFeed) xs = some (before, here) ∧ ∀ x ∈ here, isFeed x = false := by
  induction xs with
  | nil => exact ⟨[], [], splitAtLine_zero _, fun _ member => (nomatch member)⟩
  | cons x xs ih =>
    obtain ⟨before, here, tail, plain⟩ := ih
    by_cases feed : isFeed x = true
    · exact ⟨x :: before, here, by rw [List.countP_cons_of_pos feed, splitAtLine, if_pos feed, tail]; rfl, plain⟩
    · rw [List.countP_cons_of_neg feed]
      cases count : xs.countP isFeed with
      | zero =>
        refine ⟨[], x :: xs, splitAtLine_zero _, List.forall_mem_cons.2 ⟨Bool.eq_false_iff.2 feed, ?_⟩⟩
        exact fun y member => Bool.eq_false_iff.2 (List.countP_eq_zero.1 count y member)
      | succ line =>
        rw [count] at tail
        exact ⟨x :: before, here, by rw [splitAtLine, if_neg feed, tail]; rfl, plain⟩

/-- A line is found by going to the line before it and one line on. -/
theorem splitAtLine_succ (line : Nat) (xs : List α) :
    splitAtLine isFeed (line + 1) xs = (splitAtLine isFeed line xs).bind fun (before, rest) =>
      (splitAtLine isFeed 1 rest).map fun (mid, rest) => (before ++ mid, rest) := by
  fun_induction splitAtLine isFeed line xs with
  | case1 xs => simp
  | case2 line => rfl
  | case3 line x xs ih =>
    rw [splitAtLine]
    split
    · rename_i feed
      rw [if_pos feed] at ih
      rw [ih]
      cases splitAtLine isFeed line xs <;> simp [Function.comp_def]
    · rename_i other
      rw [if_neg other] at ih
      rw [ih]
      cases splitAtLine isFeed (line + 1) xs <;> simp [Function.comp_def]

theorem firstLine_isPrefix (xs : List α) : firstLine isFeed xs <+: xs := by
  unfold firstLine
  split
  · rename_i line rest h
    exact ⟨rest, append_of_splitAtLine h⟩
  · exact List.prefix_rfl

theorem firstLine_cons (x : α) (xs : List α) :
    firstLine isFeed (x :: xs) = if isFeed x then [x] else x :: firstLine isFeed xs := by
  rw [firstLine, splitAtLine]
  split <;> rename_i found
  · split at found
    · rw [if_pos ‹_›]
      simp only [splitAtLine_zero, Option.map_some] at found
      cases found
      rfl
    · rw [if_neg ‹_›]
      obtain ⟨s, tail, equal⟩ := Option.map_eq_some_iff.1 found
      cases equal
      rw [firstLine, tail]
  · split at found
    · simp at found
    · rw [if_neg ‹_›, firstLine, Option.map_eq_none_iff.1 found]

/-- Characters that are no line feeds are in the line of what comes behind them. -/
theorem firstLine_append {ys : List α} (plain : ∀ y ∈ ys, isFeed y = false) (xs : List α) :
    firstLine isFeed (ys ++ xs) = ys ++ firstLine isFeed xs := by
  induction ys with
  | nil => rfl
  | cons y ys ih =>
    rw [List.forall_mem_cons] at plain
    rw [List.cons_append, firstLine_cons, plain.1, if_neg Bool.false_ne_true, ih plain.2, List.cons_append]

/-- A line without its line feed is a part of the line. -/
theorem takeWhile_isPrefix_firstLine (xs : List α) : xs.takeWhile (!isFeed ·) <+: firstLine isFeed xs := by
  induction xs with
  | nil => exact List.nil_prefix
  | cons x xs ih =>
    rw [firstLine_cons, List.takeWhile_cons]
    by_cases feed : isFeed x = true
    · simp [feed]
    · rw [if_pos (by simpa using feed), if_neg feed]
      exact List.prefix_cons_inj x |>.2 ih

/-- The next line starts behind the first one of the rest. -/
theorem splitAtLine_succ_of_eq {line : Nat} {xs before rest next after : List α}
    (h : splitAtLine isFeed line xs = some (before, rest))
    (g : splitAtLine isFeed (line + 1) xs = some (next, after)) : next = before ++ firstLine isFeed rest := by
  rw [splitAtLine_succ, h] at g
  obtain ⟨⟨mid, r⟩, first, equal⟩ := Option.map_eq_some_iff.1 g
  cases equal
  rw [firstLine, first]

/-- A text that has a line has all lines before it, and they come first. -/
theorem splitAtLine_of_le {line later : Nat} {xs next after : List α} (le : line ≤ later)
    (h : splitAtLine isFeed later xs = some (next, after)) :
    ∃ before rest, splitAtLine isFeed line xs = some (before, rest) ∧ before <+: next := by
  induction le generalizing next after with
  | refl => exact ⟨next, after, h, List.prefix_rfl⟩
  | step le ih =>
    rw [splitAtLine_succ] at h
    obtain ⟨⟨b, r⟩, here, there⟩ := Option.bind_eq_some_iff.1 h
    obtain ⟨⟨mid, r'⟩, -, equal⟩ := Option.map_eq_some_iff.1 there
    cases equal
    obtain ⟨before, rest, found, less⟩ := ih here
    exact ⟨before, rest, found, less.trans (List.prefix_append ..)⟩

/-- Every line but the first one comes right behind a line feed. -/
theorem exists_isFeed_of_splitAtLine {line : Nat} {xs next after : List α}
    (h : splitAtLine isFeed (line + 1) xs = some (next, after)) : ∃ before x, isFeed x = true ∧ next = before ++ [x] := by
  induction xs generalizing line next with
  | nil => cases h
  | cons x xs ih =>
    rw [splitAtLine] at h
    obtain ⟨⟨b, r⟩, tail, equal⟩ := Option.map_eq_some_iff.1 h
    cases equal
    by_cases feed : isFeed x = true
    · rw [if_pos feed] at tail
      cases line with
      | zero =>
        rw [splitAtLine_zero] at tail
        cases tail
        exact ⟨[], x, feed, rfl⟩
      | succ line =>
        obtain ⟨before, y, feeds, rfl⟩ := ih tail
        exact ⟨x :: before, y, feeds, rfl⟩
    · rw [if_neg feed] at tail
      obtain ⟨before, y, feeds, rfl⟩ := ih tail
      exact ⟨x :: before, y, feeds, rfl⟩

/-- Behind every line feed a line starts. -/
theorem exists_splitAtLine_append {x : α} (feed : isFeed x = true) (before after : List α) :
    ∃ line, splitAtLine isFeed (line + 1) (before ++ x :: after) = some (before ++ [x], after) := by
  induction before with
  | nil => exact ⟨0, by rw [List.nil_append, splitAtLine, if_pos feed, splitAtLine_zero]; rfl⟩
  | cons y before ih =>
    obtain ⟨line, found⟩ := ih
    by_cases feeds : isFeed y = true
    · exact ⟨line + 1, by rw [List.cons_append, splitAtLine, if_pos feeds, found]; rfl⟩
    · exact ⟨line, by rw [List.cons_append, splitAtLine, if_neg feeds, found]; rfl⟩

/-- Characters that are no line feeds stay in front of the cut. -/
theorem splitAtLine_append_of_not_isFeed {line : Nat} {ys : List α} (plain : ∀ y ∈ ys, isFeed y = false)
    (xs : List α) : splitAtLine isFeed (line + 1) (ys ++ xs) =
      (splitAtLine isFeed (line + 1) xs).map fun (before, rest) => (ys ++ before, rest) := by
  induction ys with
  | nil => simp
  | cons y ys ih =>
    rw [List.cons_append, splitAtLine, plain y List.mem_cons_self, if_neg Bool.false_ne_true,
      ih fun z member => plain z (List.mem_cons_of_mem y member)]
    simp [Function.comp_def]

/-- An encoding keeps the cuts if it keeps line feeds apart from everything else. -/
theorem splitAtLine_flatMap {isFeed' : β → Bool} {encode : α → List β}
    (feed : ∀ x, isFeed x = true → ∃ y, encode x = [y] ∧ isFeed' y = true)
    (other : ∀ x, isFeed x = false → ∀ y ∈ encode x, isFeed' y = false) (line : Nat) (xs : List α) :
    splitAtLine isFeed' line (xs.flatMap encode) =
      (splitAtLine isFeed line xs).map fun (before, rest) => (before.flatMap encode, rest.flatMap encode) := by
  fun_induction splitAtLine isFeed line xs with
  | case1 xs => rw [splitAtLine_zero]; rfl
  | case2 line => rfl
  | case3 line x xs ih =>
    rw [List.flatMap_cons]
    by_cases isOne : isFeed x = true
    · obtain ⟨y, code, feeds⟩ := feed x isOne
      rw [if_pos isOne] at ih ⊢
      rw [code, List.singleton_append, splitAtLine, feeds, if_pos rfl, ih]
      cases splitAtLine isFeed line xs <;> simp [code]
    · rw [if_neg isOne] at ih ⊢
      rw [splitAtLine_append_of_not_isFeed (other x (Bool.eq_false_iff.2 isOne)), ih]
      cases splitAtLine isFeed (line + 1) xs <;> simp

end Split

/-- A line feed. -/
def isFeed (c : Char) : Bool :=
  c == '\n'

/-- A line feed as a byte. -/
def isFeedByte (b : UInt8) : Bool :=
  b == 10

/-! ## Bytes -/

/-- The bytes of the UTF-8 form of characters. -/
def encode8 (cs : List Char) : List UInt8 :=
  cs.flatMap String.utf8EncodeChar

theorem bytes_ofList (cs : List Char) : bytes (String.ofList cs) = encode8 cs := by
  rw [bytes, String.toByteArray_ofList, List.utf8Encode, List.toList_data_toByteArray, encode8]

theorem bytes_eq_encode8 (s : String) : bytes s = encode8 s.toList := by
  rw [← bytes_ofList, String.ofList_toList]

theorem length_encode8 (cs : List Char) : (encode8 cs).length = length8 cs := by
  induction cs with
  | nil => rfl
  | cons c cs ih =>
    rw [encode8, List.flatMap_cons, List.length_append, String.length_utf8EncodeChar, length8]
    exact congrArg _ ih

/-- Only the line feed has a byte that is one. -/
theorem isFeedByte_of_mem_utf8EncodeChar {c : Char} (h : isFeed c = false) :
    ∀ b ∈ String.utf8EncodeChar c, isFeedByte b = false := by
  have ne : c.val.toNat ≠ 10 := fun equal => by
    rw [isFeed, show c = '\n' from Char.toNat_inj.1 equal] at h
    cases h
  have large (n : Nat) (ne : n % 256 ≠ 10) : isFeedByte (UInt8.ofNat n) = false := by
    rw [isFeedByte, beq_eq_false_iff_ne]
    intro equal
    exact ne (by simpa using congrArg UInt8.toNat equal)
  fun_cases String.utf8EncodeChar c with
  | case1 v ascii =>
    intro b member
    obtain rfl := List.mem_singleton.1 member
    exact large _ (by omega)
  | case2 v _ _ =>
    simp only [List.mem_cons, List.not_mem_nil, or_false]
    rintro b (rfl | rfl) <;> exact large _ (by omega)
  | case3 v _ _ _ =>
    simp only [List.mem_cons, List.not_mem_nil, or_false]
    rintro b (rfl | rfl | rfl) <;> exact large _ (by omega)
  | case4 v _ _ _ =>
    simp only [List.mem_cons, List.not_mem_nil, or_false]
    rintro b (rfl | rfl | rfl | rfl) <;> exact large _ (by omega)

theorem utf8EncodeChar_of_isFeed {c : Char} (h : isFeed c = true) :
    ∃ b, String.utf8EncodeChar c = [b] ∧ isFeedByte b = true := by
  rw [eq_of_beq h]
  exact ⟨10, by decide, by decide⟩

/-- Lines of a text start at the same characters whether they are looked for among the characters or
among the bytes. -/
theorem splitAtLine_encode8 (line : Nat) (cs : List Char) :
    splitAtLine isFeedByte line (encode8 cs) =
      (splitAtLine isFeed line cs).map fun (before, rest) => (encode8 before, encode8 rest) :=
  splitAtLine_flatMap (fun _ => utf8EncodeChar_of_isFeed) (fun _ => isFeedByte_of_mem_utf8EncodeChar) line cs

theorem countP_encode8 (cs : List Char) : (encode8 cs).countP isFeedByte = cs.countP isFeed := by
  induction cs with
  | nil => rfl
  | cons c cs ih =>
    rw [encode8, List.flatMap_cons, List.countP_append, ← encode8, ih]
    by_cases feed : isFeed c = true
    · obtain ⟨b, code, feeds⟩ := utf8EncodeChar_of_isFeed feed
      rw [code, List.countP_cons_of_pos feeds, List.countP_cons_of_pos feed, List.countP_nil]
      omega
    · rw [List.countP_cons_of_neg feed, List.countP_eq_zero.2, Nat.zero_add]
      intro b member
      rw [isFeedByte_of_mem_utf8EncodeChar (Bool.eq_false_iff.2 feed) b member]
      exact Bool.false_ne_true

/-! ## The table of lines -/

theorem lineStartsAfter_getElem? (offset line : Nat) (bs : List UInt8) :
    (offset :: lineStartsAfter offset bs)[line]? =
      (splitAtLine isFeedByte line bs).map fun p => offset + p.1.length := by
  induction bs generalizing offset line with
  | nil => cases line <;> simp [splitAtLine, lineStartsAfter]
  | cons b bs ih =>
    cases line with
    | zero => simp
    | succ line =>
      rw [List.getElem?_cons_succ, lineStartsAfter, splitAtLine]
      by_cases feed : b = 10
      · rw [if_pos feed, if_pos (by rw [feed]; rfl), ih, Option.map_map]
        congr 1
        funext p
        simp only [Function.comp_apply, List.length_cons]
        omega
      · rw [if_neg feed, if_neg (by rwa [isFeedByte, beq_iff_eq]), ← List.getElem?_cons_succ (a := offset + 1), ih,
          Option.map_map]
        congr 1
        funext p
        simp only [Function.comp_apply, List.length_cons]
        omega

/-- The table holds the number of bytes before each line. -/
theorem lineStartsOf_getElem? (s : String) (line : Nat) :
    (lineStartsOf s)[line]? = (splitAtLine isFeed line s.toList).map fun p => length8 p.1 := by
  rw [lineStartsOf, lineStartsAfter_getElem?, bytes_eq_encode8, splitAtLine_encode8, Option.map_map]
  congr 1
  funext p
  simp only [Function.comp_apply, length_encode8, Nat.zero_add]

/-- Zero, and after it in order the offsets behind the line feeds of a text. -/
def IsLineTable (cs : List Char) (starts : List Nat) : Prop :=
  ∃ ends, starts = 0 :: ends ∧ ends.Pairwise (· < ·) ∧
    ∀ n, n ∈ ends ↔ ∃ before after, cs = before ++ '\n' :: after ∧ n = length8 before + 1

theorem lt_of_mem_lineStartsAfter {offset n : Nat} {bs : List UInt8} (h : n ∈ lineStartsAfter offset bs) :
    offset < n := by
  induction bs generalizing offset with
  | nil => cases h
  | cons b bs ih =>
    rw [lineStartsAfter] at h
    split at h
    · rcases List.mem_cons.1 h with rfl | h
      · omega
      · have := ih h
        omega
    · have := ih h
      omega

/-- As many lines start after the first one up to an offset as there are line feeds before it. -/
theorem length_takeWhile_lineStartsAfter (offset n : Nat) (bs : List UInt8) :
    ((lineStartsAfter offset bs).takeWhile (· ≤ offset + n)).length = (bs.take n).countP isFeedByte := by
  induction bs generalizing offset n with
  | nil => simp [lineStartsAfter]
  | cons b bs ih =>
    cases n with
    | zero =>
      cases starts : lineStartsAfter offset (b :: bs) with
      | nil => rfl
      | cons start _ =>
        have member : start ∈ lineStartsAfter offset (b :: bs) := starts ▸ List.mem_cons_self
        rw [List.takeWhile_cons_of_neg (by simpa using lt_of_mem_lineStartsAfter member)]
        rfl
    | succ n =>
      have same : offset + (n + 1) = offset + 1 + n := by omega
      rw [lineStartsAfter, List.take_succ_cons, same]
      by_cases feed : b = 10
      · rw [if_pos feed, List.takeWhile_cons_of_pos (by simp), List.length_cons, ih,
          List.countP_cons_of_pos (by rw [feed]; rfl)]
      · rw [if_neg feed, ih, List.countP_cons_of_neg (by rwa [isFeedByte, beq_iff_eq])]

theorem pairwise_lineStartsAfter (offset : Nat) (bs : List UInt8) :
    (lineStartsAfter offset bs).Pairwise (· < ·) := by
  induction bs generalizing offset with
  | nil => exact List.Pairwise.nil
  | cons b bs ih =>
    rw [lineStartsAfter]
    split
    · exact List.Pairwise.cons (fun n => lt_of_mem_lineStartsAfter) (ih (offset + 1))
    · exact ih (offset + 1)

theorem isLineTable_lineStartsOf (s : String) : IsLineTable s.toList (lineStartsOf s) := by
  refine ⟨_, rfl, pairwise_lineStartsAfter 0 (bytes s), fun n => ?_⟩
  have entry (line : Nat) : (lineStartsAfter 0 (bytes s))[line]? =
      (splitAtLine isFeed (line + 1) s.toList).map fun p => length8 p.1 :=
    lineStartsOf_getElem? s (line + 1)
  rw [List.mem_iff_getElem?]
  constructor
  · rintro ⟨line, found⟩
    rw [entry] at found
    obtain ⟨⟨next, after⟩, split, rfl⟩ := Option.map_eq_some_iff.1 found
    obtain ⟨before, c, feed, rfl⟩ := exists_isFeed_of_splitAtLine split
    have whole := append_of_splitAtLine split
    obtain rfl : c = '\n' := eq_of_beq feed
    exact ⟨before, after, by rw [← whole]; simp, length8_append ..⟩
  · rintro ⟨before, after, chars, rfl⟩
    have feed : isFeed '\n' = true := rfl
    obtain ⟨line, split⟩ := exists_splitAtLine_append feed before after
    exact ⟨line, by rw [entry, chars, split, Option.map_some, length8_append]; rfl⟩

end ShaderAnalysis.Text
