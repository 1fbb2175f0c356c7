import ShaderAnalysis.Document.Edit
import ShaderAnalysis.Proofs.Text.CodeUnits

/-!
# Offsets of positions

Every position in an existing line of a document stands behind some beginning of its text, and its
offset is the length of that beginning (`offsetOf?_eq`). A later position stands behind a longer
beginning, so only ranges that are inverted already as positions are refused (`applyChange_eq`,
`applyChanges_ok`).
-/

namespace ShaderAnalysis

namespace Document

open Text

theorem bytesBefore_eq (units : Nat) (cs : List Char) : bytesBefore units cs = length8 (beforeUnit units cs) := by
  induction cs generalizing units with
  | nil => rfl
  | cons c cs ih =>
    rw [bytesBefore, beforeUnit]
    split
    · rfl
    · rw [ih, length8]

/-- The table of the document is that of its text. -/
def IsIndexed (d : Document) : Prop :=
  d.lineStarts = lineStartsOf d.text

theorem isIndexed_new (uri : Uri) (text : String) (version : Int) : (new uri text version).IsIndexed := rfl

theorem isIndexed_withText (d : Document) (text : String) : (d.withText text).IsIndexed := rfl

theorem IsIndexed.withLanguageId {d : Document} (h : d.IsIndexed) (id : String) : (d.withLanguageId id).IsIndexed := by
  unfold Document.withLanguageId
  split <;> exact h

/-- The characters before a position; none if its line does not exist. -/
def before? (d : Document) (p : Position) : Option (List Char) :=
  (splitAtLine isFeed p.line d.text.toList).map fun s => s.1 ++ beforeUnit p.character (firstLine isFeed s.2)

section Indexed

variable {d : Document} (indexed : d.IsIndexed)

include indexed

theorem lineStart?_eq (line : Nat) :
    d.lineStart? line = (splitAtLine isFeed line d.text.toList).map fun s => length8 s.1 := by
  rw [lineStart?, indexed, lineStartsOf_getElem?]

theorem lineChars?_eq (line : Nat) :
    d.lineChars? line = (splitAtLine isFeed line d.text.toList).map fun s => firstLine isFeed s.2 := by
  rw [lineChars?, lineSpan?, indexed, lineStartsOf_getElem?, lineStartsOf_getElem?]
  cases here : splitAtLine isFeed line d.text.toList with
  | none => rfl
  | some s =>
    obtain ⟨before, rest⟩ := s
    have whole := append_of_splitAtLine here
    cases there : splitAtLine isFeed (line + 1) d.text.toList with
    | none =>
      have last : firstLine isFeed rest = rest := by
        rw [splitAtLine_succ, here, Option.bind_some, Option.map_eq_none_iff] at there
        rw [firstLine, there]
      simp only [Option.map_some, Option.map_none, Option.getD_none, size, slice_from whole.symm, last,
        String.toList_ofList]
    | some t =>
      obtain ⟨next, after⟩ := t
      obtain rfl := splitAtLine_succ_of_eq here there
      have cut : d.text.toList = before ++ (firstLine isFeed rest ++ after) := by
        rw [← List.append_assoc, append_of_splitAtLine there]
      simp only [Option.map_some, Option.getD_some, length8_append, slice_of_append cut, String.toList_ofList]

/-- The offset of a position is the length of what stands before it. -/
theorem offsetOf?_eq (p : Position) : d.offsetOf? p = (d.before? p).map length8 := by
  rw [offsetOf?, lineStart?_eq indexed, lineChars?_eq indexed, before?]
  cases splitAtLine isFeed p.line d.text.toList with
  | none => rfl
  | some s =>
    simp only [Option.map_some, bytesBefore_eq, length8_append]
    rfl

end Indexed

theorem before?_isPrefix {d : Document} {p : Position} {before : List Char} (h : d.before? p = some before) :
    before <+: d.text.toList := by
  obtain ⟨⟨lines, rest⟩, split, rfl⟩ := Option.map_eq_some_iff.1 h
  rw [← append_of_splitAtLine split, List.prefix_append_right_inj]
  exact (beforeUnit_isPrefix ..).trans (firstLine_isPrefix rest)

/-- What stands before a position stands before every later one. -/
theorem before?_mono {d : Document} {p q : Position} {before after : List Char} (order : q.precedes p = false)
    (hp : d.before? p = some before) (hq : d.before? q = some after) : before <+: after := by
  obtain ⟨⟨lines, rest⟩, split, rfl⟩ := Option.map_eq_some_iff.1 hp
  obtain ⟨⟨lines', rest'⟩, split', rfl⟩ := Option.map_eq_some_iff.1 hq
  simp only [Position.precedes, Bool.or_eq_false_iff, decide_eq_false_iff_not, Nat.not_lt, Bool.and_eq_false_iff,
    beq_eq_false_iff_ne] at order
  obtain ⟨lineOrder, order⟩ := order
  rcases Nat.lt_or_eq_of_le lineOrder with less | same
  · -- the whole line of `p` comes before the line of `q`
    obtain ⟨next, after, found, le⟩ := splitAtLine_of_le (Nat.succ_le_of_lt less) split'
    rw [splitAtLine_succ_of_eq split found] at le
    have inLine := (List.prefix_append_right_inj lines).2 (beforeUnit_isPrefix p.character (firstLine isFeed rest))
    exact (inLine.trans le).trans (List.prefix_append ..)
  · rw [same, split'] at split
    cases split
    rw [List.prefix_append_right_inj]
    exact beforeUnit_isPrefix_beforeUnit (by omega) _

/-! ## Changes -/

/-- A change of a range puts the new text between what stands before the range and what stands behind it. -/
theorem applyChange_eq {d : Document} (indexed : d.IsIndexed) {c : Change} {range : PositionRange}
    (ranged : c.range = some range) {before mid after : List Char} (start : d.before? range.start = some before)
    (stop : d.before? range.stop = some (before ++ mid)) (chars : d.text.toList = before ++ (mid ++ after)) :
    d.applyChange c = .ok (d.withText (String.ofList (before ++ (c.text.toList ++ after)))) := by
  have cut := (List.append_assoc ..).trans chars.symm
  rw [applyChange, ranged]
  simp only [offsetOf?_eq indexed, start, stop, Option.map_some]
  rw [dif_pos (by rw [length8_append]; omega), splice, slice_to chars, slice_from cut.symm]
  rw [← String.ofList_toList (s := c.text), ← String.ofList_append, ← String.ofList_append, List.append_assoc,
    String.toList_ofList]

/-- A change whose range is not inverted can be applied. -/
theorem applyChange_ok {d : Document} (indexed : d.IsIndexed) {c : Change}
    (ordered : ∀ range, c.range = some range → range.stop.precedes range.start = false) :
    ∃ d', d.applyChange c = .ok d' ∧ d'.IsIndexed := by
  cases ranged : c.range with
  | none => exact ⟨d.withText c.text, by rw [applyChange, ranged], isIndexed_withText d c.text⟩
  | some range =>
    cases start : d.before? range.start with
    | none =>
      refine ⟨d, ?_, indexed⟩
      rw [applyChange, ranged]
      simp only [offsetOf?_eq indexed, start, Option.map_none]
    | some before =>
      cases stop : d.before? range.stop with
      | none =>
        refine ⟨d, ?_, indexed⟩
        rw [applyChange, ranged]
        simp only [offsetOf?_eq indexed, start, stop, Option.map_none, Option.map_some]
      | some after =>
        obtain ⟨mid, rfl⟩ := before?_mono (ordered range ranged) start stop
        obtain ⟨rest, chars⟩ := before?_isPrefix stop
        rw [List.append_assoc] at chars
        exact ⟨_, applyChange_eq indexed ranged start stop chars.symm, isIndexed_withText ..⟩

/-- A batch without inverted ranges is applied as a whole. -/
theorem applyChanges_ok {d : Document} (indexed : d.IsIndexed) {changes : List Change} (version : Int)
    (ordered : ∀ c ∈ changes, ∀ range, c.range = some range → range.stop.precedes range.start = false) :
    ∃ d', d.applyChanges changes version = (d', none) ∧ d'.IsIndexed ∧ d'.version = version := by
  induction changes generalizing d with
  | nil => exact ⟨_, rfl, indexed, rfl⟩
  | cons c changes ih =>
    obtain ⟨d', applied, indexed'⟩ := applyChange_ok indexed (ordered c List.mem_cons_self)
    rw [applyChanges, applied]
    exact ih indexed' fun c member => ordered c (List.mem_cons_of_mem _ member)

/-! ## Documents that come about -/

/-- What a change makes of a document: it has the whole text replaced, or the span of a range, or it stays as
it is, where a position of the range is in no line. -/
inductive Effect (d : Document) (c : Change) : Document → Prop where
  | whole (all : c.range = none) : Effect d c (d.withText c.text)
  | part {range : PositionRange} {start stop : Nat} (ranged : c.range = some range)
      (found : d.offsetOf? range.start = some start) (found' : d.offsetOf? range.stop = some stop)
      (ordered : start ≤ stop) : Effect d c (d.withText (splice d.text ⟨start, stop, ordered⟩ c.text))
  | outside {range : PositionRange} (ranged : c.range = some range)
      (missing : d.offsetOf? range.start = none ∨ d.offsetOf? range.stop = none) : Effect d c d

theorem effect_of_applyChange {d d' : Document} {c : Change} (applied : d.applyChange c = .ok d') : d.Effect c d' := by
  unfold applyChange at applied
  cases ranged : c.range with
  | none =>
    simp only [ranged] at applied
    cases applied
    exact .whole ranged
  | some range =>
    simp only [ranged] at applied
    cases found : d.offsetOf? range.start with
    | none =>
      simp only [found] at applied
      cases applied
      exact .outside ranged (.inl found)
    | some start =>
      cases found' : d.offsetOf? range.stop with
      | none =>
        simp only [found, found'] at applied
        cases applied
        exact .outside ranged (.inr found')
      | some stop =>
        simp only [found, found'] at applied
        split at applied
        · cases applied
          exact .part ranged found found' _
        · cases applied

theorem IsIndexed.applyChange {d d' : Document} (indexed : d.IsIndexed) {c : Change}
    (applied : d.applyChange c = .ok d') : d'.IsIndexed := by
  cases effect_of_applyChange applied with
  | whole => exact isIndexed_withText ..
  | part => exact isIndexed_withText ..
  | outside => exact indexed

/-- Also a batch that stops leaves a document with the table of its text. -/
theorem IsIndexed.applyChanges {d : Document} (indexed : d.IsIndexed) (changes : List Change) (version : Int) :
    (d.applyChanges changes version).1.IsIndexed := by
  induction changes generalizing d with
  | nil => exact indexed
  | cons c changes ih =>
    rw [Document.applyChanges]
    cases applied : d.applyChange c with
    | ok d' => exact ih (indexed.applyChange applied)
    | error fault => exact indexed

/-- The documents that come about: new ones, and those that a language or a batch of changes makes of them,
be it applied as a whole or not. -/
inductive IsReached : Document → Prop where
  | new (uri : Uri) (text : String) (version : Int) : IsReached (new uri text version)
  | withLanguageId {d : Document} (reached : IsReached d) (id : String) : IsReached (d.withLanguageId id)
  | applyChanges {d : Document} (reached : IsReached d) (changes : List Change) (version : Int) :
      IsReached (d.applyChanges changes version).1

theorem IsReached.isIndexed {d : Document} (reached : d.IsReached) : d.IsIndexed := by
  induction reached with
  | new uri text version => exact isIndexed_new uri text version
  | withLanguageId _ id ih => exact ih.withLanguageId id
  | applyChanges _ changes version ih => exact ih.applyChanges changes version

end Document

end ShaderAnalysis
