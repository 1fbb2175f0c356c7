import ShaderAnalysis.Proofs.Document.Offset

/-!
# Documents follow the client

The client holds a text as UTF-16 code units and makes its changes there: it replaces everything, or what
stands between two positions. The document that is told of these changes holds the same text after each
batch of them, and its table of lines is that of the text (`applyBatches_follows_client`).
-/

namespace ShaderAnalysis

open Text

namespace Client

/-- The code units before and behind a position. The position is valid if its line exists and, without
the line feed, is long enough, and if it does not part the halves of a character. -/
def cut? (us : List UInt16) (p : Position) : Option (List UInt16 × List UInt16) :=
  match splitAtLine isFeedUnit p.line us with
  | none => none
  | some (before, rest) =>
    if p.character ≤ (rest.takeWhile (!isFeedUnit ·)).length ∧ partsCharacter rest p.character = false then
      some (before ++ rest.take p.character, rest.drop p.character)
    else none

/-- The code units after a change; none if its range is not valid. -/
def change? (us : List UInt16) (c : Change) : Option (List UInt16) :=
  match c.range with
  | none => some (utf16 c.text)
  | some range =>
    match cut? us range.start, cut? us range.stop with
    | some (before, _), some (_, behind) =>
      if range.stop.precedes range.start then none else some (before ++ utf16 c.text ++ behind)
    | _, _ => none

/-- The code units after changes, each of the text that the ones before have left. -/
def changes? (us : List UInt16) (changes : List Change) : Option (List UInt16) :=
  changes.foldlM change? us

/-- The code units after batches of changes. -/
def batches? (us : List UInt16) (batches : List (List Change × Int)) : Option (List UInt16) :=
  batches.foldlM (fun us batch => changes? us batch.1) us

end Client

namespace Document

/-- The document after batches of changes, each with its version. -/
def applyBatches (d : Document) : List (List Change × Int) → Except EditFault Document
  | [] => .ok d
  | (changes, version) :: rest =>
    match d.applyChanges changes version with
    | (d, none) => d.applyBatches rest
    | (_, some fault) => .error fault

/-- A valid position of the client is the same place in the document. -/
theorem before?_of_cut? {d : Document} {p : Position} {us vs : List UInt16}
    (h : Client.cut? (utf16 d.text) p = some (us, vs)) :
    ∃ before after, d.before? p = some before ∧ d.text.toList = before ++ after ∧
      us = encode16 before ∧ vs = encode16 after := by
  rw [Client.cut?, utf16, splitAtLine_encode16] at h
  cases split : splitAtLine isFeed p.line d.text.toList with
  | none => rw [split] at h; cases h
  | some s =>
    obtain ⟨lines, rest⟩ := s
    simp only [split, Option.map_some] at h
    split at h
    · rename_i valid
      cases h
      obtain ⟨le, whole⟩ := valid
      -- the position is in the line, so the line alone decides what stands before it
      have inLine : p.character ≤ (encode16 (firstLine isFeed rest)).length := by
        rw [← firstLine_encode16]
        exact Nat.le_trans le (takeWhile_isPrefix_firstLine _).length_le
      obtain ⟨others, line⟩ : firstLine isFeed rest <+: rest := firstLine_isPrefix rest
      have same : beforeUnit p.character (firstLine isFeed rest) = beforeUnit p.character rest := by
        rw [← beforeUnit_append inLine others, line]
      have enough : p.character ≤ (encode16 rest).length :=
        Nat.le_trans le (List.takeWhile_prefix _).length_le
      have length := length_encode16_beforeUnit enough whole
      obtain ⟨after, cut⟩ := beforeUnit_isPrefix p.character rest
      have code : encode16 rest = encode16 (beforeUnit p.character rest) ++ encode16 after := by
        rw [← encode16_append, cut]
      refine ⟨lines ++ beforeUnit p.character rest, after, ?_, ?_, ?_, ?_⟩
      · rw [before?, split, Option.map_some, same]
      · rw [List.append_assoc, cut, append_of_splitAtLine split]
      · rw [encode16_append, code, List.take_left' length]
      · rw [code, List.drop_left' length]
    · cases h

/-- A change that is valid for the client makes the same text of the document. -/
theorem applyChange_of_change? {d : Document} (indexed : d.IsIndexed) {c : Change} {us : List UInt16}
    (h : Client.change? (utf16 d.text) c = some us) :
    ∃ d', d.applyChange c = .ok d' ∧ d'.IsIndexed ∧ utf16 d'.text = us := by
  unfold Client.change? at h
  split at h
  · rename_i whole
    cases h
    exact ⟨d.withText c.text, by rw [applyChange, whole], isIndexed_withText .., rfl⟩
  · rename_i range ranged
    split at h
    · rename_i us₁ vs₁ us₂ vs₂ start stop
      split at h
      · cases h
      · rename_i order
        cases h
        obtain ⟨before, -, hstart, -, rfl, -⟩ := before?_of_cut? start
        obtain ⟨upTo, after, hstop, chars, -, rfl⟩ := before?_of_cut? stop
        obtain ⟨mid, rfl⟩ := before?_mono (Bool.eq_false_iff.2 order) hstart hstop
        rw [List.append_assoc] at chars
        refine ⟨_, applyChange_eq indexed ranged hstart hstop chars, isIndexed_withText .., ?_⟩
        rw [withText, utf16, String.toList_ofList, encode16_append, encode16_append, utf16, List.append_assoc]
    · cases h

theorem applyChanges_of_changes? {d : Document} (indexed : d.IsIndexed) {changes : List Change} (version : Int)
    {us : List UInt16} (h : Client.changes? (utf16 d.text) changes = some us) :
    ∃ d', d.applyChanges changes version = (d', none) ∧ d'.IsIndexed ∧ utf16 d'.text = us ∧
      d'.version = version := by
  induction changes generalizing d with
  | nil =>
    cases h
    exact ⟨_, rfl, indexed, rfl, rfl⟩
  | cons c changes ih =>
    obtain ⟨us', first, later⟩ := Option.bind_eq_some_iff.1 h
    obtain ⟨d', applied, indexed', rfl⟩ := applyChange_of_change? indexed first
    rw [applyChanges, applied]
    exact ih indexed' later

theorem applyBatches_of_batches? {d : Document} (indexed : d.IsIndexed) {batches : List (List Change × Int)}
    {us : List UInt16} (h : Client.batches? (utf16 d.text) batches = some us) :
    ∃ d', d.applyBatches batches = .ok d' ∧ d'.IsIndexed ∧ utf16 d'.text = us ∧
      d'.version = (batches.getLast?.map (·.2)).getD d.version := by
  induction batches generalizing d with
  | nil =>
    cases h
    exact ⟨d, rfl, indexed, rfl, rfl⟩
  | cons batch batches ih =>
    obtain ⟨us', first, later⟩ := Option.bind_eq_some_iff.1 h
    obtain ⟨d', applied, indexed', rfl, version⟩ := applyChanges_of_changes? indexed batch.2 first
    obtain ⟨d'', rest, indexed'', code, last⟩ := ih indexed' later
    refine ⟨d'', ?_, indexed'', code, ?_⟩
    · rw [applyBatches, applied]
      exact rest
    · rw [last, version, List.getLast?_cons]
      cases batches.getLast? <;> rfl

/-- Documents follow the client. A new document has the table of its text; and a document with that
table, told of batches of valid changes, holds the one text whose code units the client then has, the
version of the last batch, and the table of that text. -/
theorem applyBatches_follows_client :
    (∀ uri text version, (Document.new uri text version).IsIndexed) ∧
      ∀ (d : Document) (batches : List (List Change × Int)) (us : List UInt16), d.IsIndexed →
        Client.batches? (utf16 d.text) batches = some us →
        ∃ d', d.applyBatches batches = .ok d' ∧ (∀ text, utf16 text = us ↔ text = d'.text) ∧
          d'.version = (batches.getLast?.map (·.2)).getD d.version ∧ d'.IsIndexed ∧
          IsLineTable d'.text.toList d'.lineStarts := by
  refine ⟨isIndexed_new, fun d batches us indexed valid => ?_⟩
  obtain ⟨d', applied, indexed', rfl, version⟩ := applyBatches_of_batches? indexed valid
  refine ⟨d', applied, fun text => ⟨utf16_injective, congrArg utf16⟩, version, indexed', ?_⟩
  rw [indexed']
  exact isLineTable_lineStartsOf d'.text

/-- Two changes of one batch: the first takes a line feed away behind a character of two code units and
puts one before another such character, the second counts in the text that is left. -/
theorem follows_client_over_surrogates :
    Client.batches? (utf16 "a😀b\nc")
        [([⟨some ⟨⟨0, 3⟩, ⟨1, 0⟩⟩, "é\n😀"⟩, ⟨some ⟨⟨1, 2⟩, ⟨1, 3⟩⟩, "!"⟩], 7)] = some (utf16 "a😀é\n😀!") ∧
      ∃ d', (new default "a😀b\nc" 1).applyBatches
          [([⟨some ⟨⟨0, 3⟩, ⟨1, 0⟩⟩, "é\n😀"⟩, ⟨some ⟨⟨1, 2⟩, ⟨1, 3⟩⟩, "!"⟩], 7)] = .ok d' ∧
        (∀ text, utf16 text = utf16 "a😀é\n😀!" ↔ text = d'.text) ∧ d'.version = 7 ∧ d'.IsIndexed ∧
        IsLineTable d'.text.toList d'.lineStarts := by
  have valid : Client.batches? (utf16 "a😀b\nc")
      [([⟨some ⟨⟨0, 3⟩, ⟨1, 0⟩⟩, "é\n😀"⟩, ⟨some ⟨⟨1, 2⟩, ⟨1, 3⟩⟩, "!"⟩], 7)] = some (utf16 "a😀é\n😀!") := by decide
  exact ⟨valid, applyBatches_follows_client.2 _ _ _ (applyBatches_follows_client.1 ..) valid⟩

end Document

end ShaderAnalysis
