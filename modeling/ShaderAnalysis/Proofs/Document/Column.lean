import ShaderAnalysis.Proofs.Document.Position

/-!
# Columns behind the end of a line

For a client, a column behind the end of a line means that end, in front of the line feed. A document reads it
so only in the last line. In any other one it counts the line feed as one more character, and a column behind
the end leads to the start of the next line (`offsetOf?_stays_iff`), so that a change up to there takes the
line feed away (`column_leaves_line`).
-/

namespace ShaderAnalysis.Document

open Text Position

/-- A line has this content, with `before` in front of it and `behind` after it, from its line feed on. -/
structure IsLine (d : Document) (line : Nat) (before content behind : List Char) : Prop where
  found : splitAtLine isFeed line d.text.toList = some (before, content ++ behind)
  plain : ∀ c ∈ content, isFeed c = false
  ends : behind = [] ∨ ∃ after, behind = '\n' :: after

/-- Every line that the table knows has a content. -/
theorem exists_isLine {d : Document} (indexed : d.IsIndexed) {line start : Nat}
    (known : d.lineStart? line = some start) :
    ∃ before content behind, d.IsLine line before content behind ∧ start = length8 before := by
  rw [lineStart?_eq indexed] at known
  obtain ⟨⟨before, rest⟩, found, rfl⟩ := Option.map_eq_some_iff.1 known
  refine ⟨before, rest.takeWhile (!isFeed ·), rest.dropWhile (!isFeed ·), ⟨?_, ?_, ?_⟩, rfl⟩
  · rw [List.takeWhile_append_dropWhile, found]
  · intro c member
    simpa using List.mem_takeWhile_imp member
  · have feed := List.head?_dropWhile_not (!isFeed ·) rest
    cases behind : rest.dropWhile (!isFeed ·) with
    | nil => exact Or.inl rfl
    | cons c after =>
      rw [behind] at feed
      have : c = '\n' := by simpa [isFeed] using feed
      exact Or.inr ⟨after, by rw [this]⟩

namespace IsLine

variable {d : Document} {line : Nat} {before content behind : List Char} (here : d.IsLine line before content behind)

include here

theorem chars : d.text.toList = before ++ (content ++ behind) :=
  (append_of_splitAtLine here.found).symm

/-- A position stands behind characters of the content, or behind the line feed. -/
theorem before?_eq (character : Nat) :
    d.before? ⟨line, character⟩ = some (before ++ beforeUnit character (content ++ behind.take 1)) := by
  have feed : firstLine isFeed behind = behind.take 1 := by
    rcases here.ends with rfl | ⟨after, rfl⟩
    · rfl
    · rw [firstLine_cons]
      rfl
  rw [before?, here.found, Option.map_some, firstLine_append here.plain, feed]

/-- A column in the content, or behind the last line, is a place in the content. -/
theorem exists_append {character : Nat} (stays : character ≤ length16 content ∨ behind = []) :
    ∃ mid more, beforeUnit character (content ++ behind.take 1) = mid ∧ content = mid ++ more ∧
      (length16 content ≤ character → more = []) := by
  have clamped : beforeUnit character (content ++ behind.take 1) = beforeUnit character content := by
    rcases stays with inside | rfl
    · exact beforeUnit_append (by rwa [length_encode16]) _
    · rw [List.take_nil, List.append_nil]
  obtain ⟨more, whole⟩ := beforeUnit_isPrefix character content
  refine ⟨_, more, clamped, whole.symm, fun past => ?_⟩
  rw [beforeUnit_of_le past] at whole
  exact List.append_right_eq_self.1 whole

omit here in
/-- Any other column is the place behind the line feed. -/
theorem beforeUnit_past {character : Nat} {after : List Char} (feed : behind = '\n' :: after)
    (past : length16 content < character) :
    beforeUnit character (content ++ behind.take 1) = content ++ ['\n'] := by
  have units : length16 (content ++ ['\n']) = length16 content + 1 := by
    rw [← length_encode16, encode16_append, List.length_append, length_encode16]
    rfl
  rw [feed]
  apply beforeUnit_of_le
  show length16 (content ++ ['\n']) ≤ character
  omega

/-- Places in the content are in the line. -/
theorem walk_line {mid more : List Char} (whole : content = mid ++ more) :
    (origin.walk (before ++ mid)).line = line := by
  rw [origin_walk here.found fun c member => here.plain c (whole ▸ List.mem_append_left more member)]

/-- The place behind the line feed is the start of the next line. -/
theorem walk_feed : origin.walk (before ++ (content ++ ['\n'])) = ⟨line + 1, 0⟩ := by
  rw [← List.append_assoc, walk_append, origin_walk here.found here.plain]
  rfl

end IsLine

/-- A change of a range leaves all that stands behind the range. -/
theorem applyChange_keeps_after {d d' : Document} (indexed : d.IsIndexed) {c : Change} {range : PositionRange}
    (ranged : c.range = some range) {upTo after : List Char} (stop : d.before? range.stop = some upTo)
    (chars : d.text.toList = upTo ++ after) (applied : d.applyChange c = .ok d') : after <:+ d'.text.toList := by
  cases effect_of_applyChange applied with
  | whole all => simp [ranged] at all
  | part ranged' found found' ordered =>
    obtain rfl := Option.some.inj (ranged.symm.trans ranged')
    rw [offsetOf?_eq indexed, stop, Option.map_some] at found'
    cases found'
    rw [withText, splice]
    simp only [slice_from chars, String.toList_append, String.toList_ofList]
    exact List.suffix_append ..
  | outside => exact ⟨upTo, chars.symm⟩

/-- A column leads to a place between two characters, which is in the same line if and only if the column is
in the content of the line or the line is the last one. Then a column behind the content is its end, and no
change up to it touches what comes behind the content. Otherwise the place is the start of the next line. -/
theorem offsetOf?_stays_iff {d : Document} (reached : d.IsReached) {line start : Nat}
    (known : d.lineStart? line = some start) (character : Nat) :
    ∃ before content behind o, d.IsLine line before content behind ∧
      d.offsetOf? ⟨line, character⟩ = some o ∧ isBoundary d.text o = true ∧
      (d.lineOf o = line ↔ character ≤ length16 content ∨ behind = []) ∧
      (d.lineOf o = line → length16 content ≤ character → o = length8 (before ++ content)) ∧
      (d.lineOf o = line → ∀ c from_ d', c.range = some ⟨from_, ⟨line, character⟩⟩ →
        d.applyChange c = .ok d' → behind <:+ d'.text.toList) ∧
      (d.lineOf o ≠ line → d.lineStart? (line + 1) = some o) := by
  have indexed := reached.isIndexed
  obtain ⟨before, content, behind, here, -⟩ := exists_isLine indexed known
  have stands := here.before?_eq character
  by_cases stays : character ≤ length16 content ∨ behind = []
  · obtain ⟨mid, more, clamped, whole, ending⟩ := here.exists_append stays
    have chars : d.text.toList = (before ++ mid) ++ (more ++ behind) := by
      rw [here.chars, whole, List.append_assoc, List.append_assoc]
    rw [clamped] at stands
    have inLine : d.lineOf (length8 (before ++ mid)) = line := by rw [lineOf_eq indexed chars, here.walk_line whole]
    refine ⟨before, content, behind, length8 (before ++ mid), here, ?_, ?_, ?_, ?_, ?_, ?_⟩
    · rw [offsetOf?_eq indexed, stands, Option.map_some]
    · exact isBoundary_iff_exists_append.2 ⟨_, _, chars, rfl⟩
    · simp only [inLine, stays]
    · intro _ past
      rw [whole, ending past, List.append_nil]
    · intro _ c from_ d' ranged applied
      have kept := applyChange_keeps_after indexed ranged stands chars applied
      exact (List.suffix_append more behind).trans kept
    · intro left
      exact absurd inLine left
  · obtain ⟨past, last⟩ := not_or.1 stays
    obtain ⟨after, feed⟩ := here.ends.resolve_left last
    rw [IsLine.beforeUnit_past feed (Nat.lt_of_not_le past)] at stands
    have chars : d.text.toList = (before ++ (content ++ ['\n'])) ++ after := by simp [here.chars, feed]
    have nextLine : d.lineOf (length8 (before ++ (content ++ ['\n']))) = line + 1 := by
      rw [lineOf_eq indexed chars, here.walk_feed]
    have left : d.lineOf (length8 (before ++ (content ++ ['\n']))) ≠ line := by omega
    refine ⟨before, content, behind, length8 (before ++ (content ++ ['\n'])), here, ?_, ?_, ?_, ?_, ?_, ?_⟩
    · rw [offsetOf?_eq indexed, stands, Option.map_some]
    · exact isBoundary_iff_exists_append.2 ⟨_, _, chars, rfl⟩
    · simp only [left, stays]
    · intro same
      exact absurd same left
    · intro same
      exact absurd same left
    · intro _
      have start := lineStart?_of_walk indexed chars (by rw [here.walk_feed])
      rwa [here.walk_feed] at start

/-- Two lines, the second of which has no line feed. -/
def twoLines : Document :=
  new default "ab\ncd" 1

/-- Column 9 of the last line is its end, as is every column behind it. -/
theorem offsetOf?_stays_lastLine :
    (twoLines.IsReached ∧ twoLines.lineStart? 1 = some 3) ∧
      ∃ before content behind o, twoLines.IsLine 1 before content behind ∧
        twoLines.offsetOf? ⟨1, 9⟩ = some o ∧ isBoundary twoLines.text o = true ∧
        (twoLines.lineOf o = 1 ↔ 9 ≤ length16 content ∨ behind = []) ∧
        (twoLines.lineOf o = 1 → length16 content ≤ 9 → o = length8 (before ++ content)) ∧
        (twoLines.lineOf o = 1 → ∀ c from_ d', c.range = some ⟨from_, ⟨1, 9⟩⟩ →
          twoLines.applyChange c = .ok d' → behind <:+ d'.text.toList) ∧
        (twoLines.lineOf o ≠ 1 → twoLines.lineStart? 2 = some o) := by
  have reached : twoLines.IsReached := .new default "ab\ncd" 1
  have known : twoLines.lineStart? 1 = some 3 := by decide
  exact ⟨⟨reached, known⟩, offsetOf?_stays_iff reached known 9⟩

/-- Column 3 is behind the end of the first line: it leads to the second one, and a change up to there joins
the two. -/
theorem column_leaves_line :
    twoLines.offsetOf? ⟨0, 3⟩ = some 3 ∧ twoLines.lineOf 3 = 1 ∧
      twoLines.applyChanges [⟨some ⟨⟨0, 2⟩, ⟨0, 3⟩⟩, ""⟩] 2 = (new default "abcd" 2, none) := by
  decide

end ShaderAnalysis.Document
