import Mathlib.Data.List.TakeWhile
import ShaderAnalysis.Proofs.Document.Client

/-!
# Positions of offsets

Whoever walks over the characters of a text from its beginning, and counts line feeds and code units, comes
by all its positions in order. The position of an offset is where this walk stands behind the characters
before it (`positionOf_eq`), and the offset of that position is the length of these characters
(`offsetOf?_walk`). So offsets between characters and positions that are valid for the client determine
each other (`positions_match_offsets`).
-/

namespace ShaderAnalysis

open Text

namespace Position

/-- The position in front of a text. -/
def origin : Position :=
  ⟨0, 0⟩

/-- The position behind a character at `p`. -/
def advance (p : Position) (c : Char) : Position :=
  if isFeed c then ⟨p.line + 1, 0⟩ else ⟨p.line, p.character + units16 c⟩

/-- The position behind characters that start at `p`. -/
def walk (p : Position) (cs : List Char) : Position :=
  cs.foldl advance p

@[simp] theorem walk_nil (p : Position) : p.walk [] = p := rfl

@[simp] theorem walk_cons (p : Position) (c : Char) (cs : List Char) : p.walk (c :: cs) = (p.advance c).walk cs := rfl

theorem walk_append (p : Position) (cs ds : List Char) : p.walk (cs ++ ds) = (p.walk cs).walk ds :=
  List.foldl_append

/-! ## The order of positions -/

theorem precedes_iff {p q : Position} :
    p.precedes q = true ↔ p.line < q.line ∨ p.line = q.line ∧ p.character < q.character := by
  simp [precedes]

theorem precedes_trans {p q r : Position} (first : p.precedes q = true) (second : q.precedes r = true) :
    p.precedes r = true := by
  rw [precedes_iff] at *
  omega

theorem precedes_advance (p : Position) (c : Char) : p.precedes (p.advance c) = true := by
  have := units16_pos c
  rw [precedes_iff]
  unfold advance
  split
  · left
    show p.line < p.line + 1
    omega
  · right
    show p.line = p.line ∧ p.character < p.character + units16 c
    omega

/-- Walking goes forward. -/
theorem precedes_walk (p : Position) {cs : List Char} (nonempty : cs ≠ []) : p.precedes (p.walk cs) = true := by
  induction cs generalizing p with
  | nil => exact absurd rfl nonempty
  | cons c cs ih =>
    rw [walk_cons]
    cases cs with
    | nil => exact precedes_advance p c
    | cons d cs => exact precedes_trans (precedes_advance p c) (ih (p.advance c) (List.cons_ne_nil d cs))

/-! ## Lines on the way -/

/-- Within a line the code units are counted. -/
theorem walk_of_plain {cs : List Char} (plain : ∀ c ∈ cs, isFeed c = false) (p : Position) :
    p.walk cs = ⟨p.line, p.character + length16 cs⟩ := by
  induction cs generalizing p with
  | nil => rfl
  | cons c cs ih =>
    rw [List.forall_mem_cons] at plain
    have step : p.advance c = ⟨p.line, p.character + units16 c⟩ := by
      unfold advance
      rw [plain.1, if_neg Bool.false_ne_true]
    rw [walk_cons, step, ih plain.2, length16, Nat.add_assoc]

/-- Where a line starts, as many lines have been counted as it has in front. -/
theorem walk_of_splitAtLine {line : Nat} {cs lines rest : List Char}
    (split : splitAtLine isFeed line cs = some (lines, rest)) {p : Position} (start : line = 0 → p.character = 0) :
    p.walk lines = ⟨p.line + line, 0⟩ := by
  fun_induction splitAtLine isFeed line cs generalizing lines rest p with
  | case1 cs =>
    cases split
    have zero := start rfl
    rw [walk_nil, Nat.add_zero, ← zero]
  | case2 line => cases split
  | case3 line c cs ih =>
    obtain ⟨⟨lines, rest⟩, tail, equal⟩ := Option.map_eq_some_iff.1 split
    cases equal
    rw [walk_cons]
    unfold advance
    by_cases feed : isFeed c = true
    · simp only [if_pos feed] at ih tail ⊢
      rw [ih tail fun _ => rfl]
      simp only [Position.mk.injEq, and_true]
      omega
    · simp only [if_neg feed] at ih tail ⊢
      exact ih tail (fun zero => absurd zero (Nat.succ_ne_zero line))

/-- The walk over whole lines and a part of the next one. -/
theorem origin_walk {line : Nat} {cs lines rest here : List Char}
    (split : splitAtLine isFeed line cs = some (lines, rest)) (plain : ∀ c ∈ here, isFeed c = false) :
    origin.walk (lines ++ here) = ⟨line, length16 here⟩ := by
  rw [walk_append, walk_of_splitAtLine split (p := origin) fun _ => rfl, walk_of_plain plain]
  simp [origin]

/-- Every walk ends in some line. -/
theorem exists_origin_walk (before : List Char) :
    ∃ lines here, before = lines ++ here ∧ (∀ c ∈ here, isFeed c = false) ∧
      origin.walk before = ⟨before.countP isFeed, length16 here⟩ ∧
      ∀ after, splitAtLine isFeed (before.countP isFeed) (before ++ after) = some (lines, here ++ after) := by
  obtain ⟨lines, here, split, plain⟩ := @exists_splitAtLine_countP _ isFeed before
  have whole : before = lines ++ here := (append_of_splitAtLine split).symm
  refine ⟨lines, here, whole, plain, ?_, splitAtLine_append split⟩
  calc origin.walk before = origin.walk (lines ++ here) := by rw [← whole]
    _ = ⟨before.countP isFeed, length16 here⟩ := origin_walk split plain

end Position

namespace Document

open Position

section Indexed

variable {d : Document} (indexed : d.IsIndexed)

include indexed

/-- The line of an offset is the number of line feeds before it. -/
theorem lineOf_eq_countP (offset : Nat) : d.lineOf offset = ((bytes d.text).take offset).countP isFeedByte := by
  have bound : (bytes d.text).length = d.size := by
    rw [bytes_eq_encode8, length_encode8, size, utf8ByteSize_eq_length8]
  have starts := length_takeWhile_lineStartsAfter 0 (min offset d.size) (bytes d.text)
  rw [Nat.zero_add] at starts
  rw [lineOf, indexed, lineStartsOf, List.takeWhile_cons_of_pos (by simp), List.length_cons, Nat.add_sub_cancel, starts]
  by_cases past : offset ≤ d.size
  · rw [Nat.min_eq_left past]
  · rw [Nat.min_eq_right (by omega), List.take_of_length_le (by omega), List.take_of_length_le (by omega)]

variable {before after : List Char} (chars : d.text.toList = before ++ after)

include chars

theorem lineOf_eq : d.lineOf (length8 before) = (origin.walk before).line := by
  obtain ⟨lines, here, -, -, stand, -⟩ := exists_origin_walk before
  have code : bytes d.text = encode8 before ++ encode8 after := by
    rw [bytes_eq_encode8, chars]
    exact List.flatMap_append
  rw [lineOf_eq_countP indexed, code, List.take_left' (length_encode8 before), countP_encode8, stand]

/-- Where the walk has counted no code units, a line starts. -/
theorem lineStart?_of_walk (first : (origin.walk before).character = 0) :
    d.lineStart? (origin.walk before).line = some (length8 before) := by
  obtain ⟨lines, here, whole, -, stand, split⟩ := exists_origin_walk before
  rw [stand] at first
  have none : here = [] := by
    cases here with
    | nil => rfl
    | cons c cs =>
      have := units16_pos c
      simp only [length16] at first
      omega
  rw [none, List.append_nil] at whole
  rw [lineStart?_eq indexed, stand, chars, split, Option.map_some, ← whole]

/-- The position of an offset is where the walk over the characters before it ends. -/
theorem positionOf_eq : d.positionOf (length8 before) = origin.walk before := by
  obtain ⟨lines, here, whole, plain, stand, split⟩ := exists_origin_walk before
  have cut : d.text.toList = lines ++ (here ++ after) := by rw [chars, whole, List.append_assoc]
  have inside : min (length8 before) d.size = length8 before := by
    rw [size, utf8ByteSize_eq_length8, chars, length8_append]
    omega
  have line : d.lineOf (length8 before) = before.countP isFeed := by rw [lineOf_eq indexed chars, stand]
  have start : d.lineStart? (before.countP isFeed) = some (length8 lines) := by
    rw [lineStart?_eq indexed, chars, split, Option.map_some]
  have slice : slice d.text (.between (length8 lines) (length8 before)) = String.ofList here := by
    rw [whole, length8_append]
    exact slice_of_append cut
  unfold positionOf
  simp only [inside, line, start, Option.getD_some, slice, String.toList_ofList, stand]

omit indexed in
/-- Where the walk ends, these characters are what stands before. -/
theorem before?_walk : d.before? (origin.walk before) = some before := by
  obtain ⟨lines, here, whole, plain, stand, split⟩ := exists_origin_walk before
  rw [before?, stand, chars, split, Option.map_some, firstLine_append plain,
    beforeUnit_append (Nat.le_of_eq (length_encode16 here).symm), beforeUnit_of_le (Nat.le_refl _), ← whole]

theorem offsetOf?_walk : d.offsetOf? (origin.walk before) = some (length8 before) := by
  rw [offsetOf?_eq indexed, before?_walk chars, Option.map_some]

end Indexed

/-- A position that is valid for the client is one that the walk comes by. -/
theorem exists_walk_of_cut? {d : Document} {p : Position} {us vs : List UInt16}
    (valid : Client.cut? (utf16 d.text) p = some (us, vs)) :
    ∃ before after, d.text.toList = before ++ after ∧ origin.walk before = p := by
  rw [Client.cut?, utf16, splitAtLine_encode16] at valid
  cases split : splitAtLine isFeed p.line d.text.toList with
  | none =>
    rw [split] at valid
    cases valid
  | some s =>
    obtain ⟨lines, rest⟩ := s
    simp only [split, Option.map_some, takeWhile_encode16] at valid
    split at valid
    · rename_i inLine
      obtain ⟨le, whole⟩ := inLine
      -- only the content of the line counts, and there is no line feed in it
      have content : beforeUnit p.character rest = beforeUnit p.character (rest.takeWhile (!isFeed ·)) := by
        have := beforeUnit_append le (rest.dropWhile (!isFeed ·))
        rwa [List.takeWhile_append_dropWhile] at this
      have plain : ∀ c ∈ beforeUnit p.character rest, isFeed c = false := by
        intro c member
        rw [content] at member
        simpa using List.mem_takeWhile_imp ((beforeUnit_isPrefix ..).subset member)
      have enough : p.character ≤ (encode16 rest).length := by
        apply Nat.le_trans le
        rw [← takeWhile_encode16]
        exact (List.takeWhile_prefix _).length_le
      have units : length16 (beforeUnit p.character rest) = p.character := by
        rw [← length_encode16]
        exact length_encode16_beforeUnit enough whole
      obtain ⟨after, cut⟩ := beforeUnit_isPrefix p.character rest
      refine ⟨lines ++ beforeUnit p.character rest, after, ?_, ?_⟩
      · rw [List.append_assoc, cut, append_of_splitAtLine split]
      · rw [origin_walk split plain, units]
    · cases valid

/-- The offsets between characters and the positions that are valid for the client determine each other: an
offset is that of its position, whose line is the one it is in; later offsets have later positions; and a
valid position is that of its offset. -/
theorem positions_match_offsets {d : Document} (reached : d.IsReached) :
    (∀ o, isBoundary d.text o = true →
        d.offsetOf? (d.positionOf o) = some o ∧ d.lineOf o = (d.positionOf o).line) ∧
      (∀ o o', isBoundary d.text o = true → isBoundary d.text o' = true → o < o' →
        (d.positionOf o).precedes (d.positionOf o') = true) ∧
      ∀ p us vs, Client.cut? (utf16 d.text) p = some (us, vs) →
        ∃ o, isBoundary d.text o = true ∧ d.offsetOf? p = some o ∧ d.positionOf o = p := by
  have indexed := reached.isIndexed
  constructor
  · intro o boundary
    obtain ⟨before, after, chars, rfl⟩ := isBoundary_iff_exists_append.1 boundary
    rw [positionOf_eq indexed chars]
    constructor
    · exact offsetOf?_walk indexed chars
    · exact lineOf_eq indexed chars
  constructor
  · intro o o' boundary boundary' less
    obtain ⟨before, after, chars, rfl⟩ := isBoundary_iff_exists_append.1 boundary
    obtain ⟨upTo, rest, chars', rfl⟩ := isBoundary_iff_exists_append.1 boundary'
    obtain ⟨mid, rfl⟩ := isPrefix_of_length8_le (chars.symm.trans chars') (Nat.le_of_lt less)
    have nonempty : mid ≠ [] := by
      rintro rfl
      rw [List.append_nil] at less
      exact Nat.lt_irrefl _ less
    rw [positionOf_eq indexed chars, positionOf_eq indexed chars', walk_append]
    exact precedes_walk _ nonempty
  · intro p us vs valid
    obtain ⟨before, after, chars, rfl⟩ := exists_walk_of_cut? valid
    refine ⟨length8 before, ?_, ?_, ?_⟩
    · exact isBoundary_iff_exists_append.2 ⟨before, after, chars, rfl⟩
    · exact offsetOf?_walk indexed chars
    · exact positionOf_eq indexed chars

/-- A carriage return counts as a character of its line, and a character of four bytes for two units. -/
theorem positions_match_offsets_surrogates :
    (new default "a\r\n😀é" 1).IsReached ∧
      (isBoundary "a\r\n😀é" 2 = true ∧ isBoundary "a\r\n😀é" 7 = true) ∧
      Client.cut? (utf16 "a\r\n😀é") ⟨1, 2⟩ = some (utf16 "a\r\n😀", utf16 "é") ∧
      (new default "a\r\n😀é" 1).offsetOf? ((new default "a\r\n😀é" 1).positionOf 7) = some 7 ∧
      ((new default "a\r\n😀é" 1).positionOf 2).precedes ((new default "a\r\n😀é" 1).positionOf 7) = true ∧
      ∃ o, (new default "a\r\n😀é" 1).offsetOf? ⟨1, 2⟩ = some o ∧
        (new default "a\r\n😀é" 1).positionOf o = ⟨1, 2⟩ := by
  have reached : (new default "a\r\n😀é" 1).IsReached := .new ..
  have first : isBoundary "a\r\n😀é" 2 = true := by decide
  have second : isBoundary "a\r\n😀é" 7 = true := by decide
  have valid : Client.cut? (utf16 "a\r\n😀é") ⟨1, 2⟩ = some (utf16 "a\r\n😀", utf16 "é") := by decide
  obtain ⟨inverse, increasing, valued⟩ := positions_match_offsets reached
  obtain ⟨o, -, offset, position⟩ := valued ⟨1, 2⟩ _ _ valid
  exact ⟨reached, ⟨first, second⟩, valid, (inverse 7 second).1, increasing 2 7 first second (by decide), o, offset,
    position⟩

end Document

end ShaderAnalysis
