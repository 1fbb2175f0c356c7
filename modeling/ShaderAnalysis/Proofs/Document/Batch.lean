import ShaderAnalysis.Proofs.Document.Offset
import ShaderAnalysis.Workspace.Snapshot

/-!
# Batches that stop

A batch stops at a change whose range ends before it starts. What the changes before it have made of the text
stays, under the version that the document had. So a batch acts as a whole, all or nothing, if and only if the
changes before such a one leave the text as it was (`applyChanges_eq_applyWhole_iff`); in general they do not
(`halfBatch_keeps_version`).
-/

namespace ShaderAnalysis.Document

/-- The document after a batch of which all changes are made or none. -/
def applyWhole (d : Document) (changes : List Change) (version : Int) : Document × Option EditFault :=
  match changes.foldlM applyChange d with
  | .ok d' => ({ d' with version }, none)
  | .error fault => (d, some fault)

/-- The range of a change ends before it starts. -/
def IsInverted (d : Document) (c : Change) : Prop :=
  ∃ range start stop, c.range = some range ∧ d.offsetOf? range.start = some start ∧
    d.offsetOf? range.stop = some stop ∧ stop < start

/-- A batch gets to a change that is inverted in the document which the changes before it have made. -/
structure StopsAt (d : Document) (changes applied : List Change) (refused : Change) (d' : Document) : Prop where
  parts : ∃ rest, changes = applied ++ refused :: rest
  made : applied.foldlM applyChange d = .ok d'
  inverted : d'.IsInverted refused

/-! ## One change -/

/-- Exactly the inverted changes are refused. -/
theorem applyChange_eq_error_iff {d : Document} {c : Change} {fault : EditFault} :
    d.applyChange c = .error fault ↔ d.IsInverted c := by
  constructor
  · intro refused
    unfold applyChange at refused
    split at refused
    · cases refused
    · rename_i range ranged
      split at refused
      · rename_i start stop hstart hstop
        split at refused
        · cases refused
        · exact ⟨range, start, stop, ranged, hstart, hstop, by omega⟩
      · cases refused
  · rintro ⟨range, start, stop, ranged, hstart, hstop, less⟩
    cases fault
    simp only [applyChange, ranged, hstart, hstop]
    rw [dif_neg (by omega)]

theorem withText_self {d : Document} (indexed : d.IsIndexed) : d.withText d.text = d := by
  unfold withText
  rw [← indexed]

/-- A change is one of the text. -/
theorem eq_withText_of_applyChange {d d' : Document} (indexed : d.IsIndexed) {c : Change}
    (applied : d.applyChange c = .ok d') : d' = d.withText d'.text := by
  cases effect_of_applyChange applied with
  | whole => rfl
  | part => rfl
  | outside => exact (withText_self indexed).symm

/-! ## Batches -/

theorem foldlM_cons_of_ok {d d' : Document} {c : Change} (applied : d.applyChange c = .ok d') (changes : List Change) :
    (c :: changes).foldlM applyChange d = changes.foldlM applyChange d' := by
  rw [List.foldlM_cons, applied]
  rfl

/-- So is a batch. -/
theorem eq_withText_of_foldlM {d d' : Document} (indexed : d.IsIndexed) {changes : List Change}
    (made : changes.foldlM applyChange d = .ok d') : d' = d.withText d'.text := by
  induction changes generalizing d with
  | nil =>
    cases made
    exact (withText_self indexed).symm
  | cons c changes ih =>
    cases applied : d.applyChange c with
    | error fault =>
      rw [List.foldlM_cons, applied] at made
      cases made
    | ok d₁ =>
      rw [foldlM_cons_of_ok applied] at made
      rw [ih (indexed.applyChange applied) made, eq_withText_of_applyChange indexed applied]
      rfl

theorem StopsAt.cons {d d₁ d' : Document} {c refused : Change} {changes applied : List Change}
    (first : d.applyChange c = .ok d₁) (stops : d₁.StopsAt changes applied refused d') :
    d.StopsAt (c :: changes) (c :: applied) refused d' := by
  obtain ⟨⟨rest, rfl⟩, made, inverted⟩ := stops
  exact ⟨⟨rest, rfl⟩, by rw [foldlM_cons_of_ok first, made], inverted⟩

/-- A batch is applied as a whole, or stops at an inverted change. -/
theorem applyChanges_cases (d : Document) (changes : List Change) (version : Int) :
    (∃ d', changes.foldlM applyChange d = .ok d' ∧ d.applyChanges changes version = ({ d' with version }, none)) ∨
      ∃ applied refused d', d.StopsAt changes applied refused d' := by
  induction changes generalizing d with
  | nil => exact Or.inl ⟨d, rfl, rfl⟩
  | cons c changes ih =>
    cases first : d.applyChange c with
    | error fault => exact Or.inr ⟨[], c, d, ⟨changes, rfl⟩, rfl, applyChange_eq_error_iff.1 first⟩
    | ok d₁ =>
      rcases ih d₁ with ⟨d', made, result⟩ | ⟨applied, refused, d', stops⟩
      · refine Or.inl ⟨d', by rw [foldlM_cons_of_ok first, made], ?_⟩
        rw [applyChanges, first]
        exact result
      · exact Or.inr ⟨c :: applied, refused, d', stops.cons first⟩

/-- Where a batch stops, the document is what the changes before have made; a batch that is all or nothing
comes to nothing. -/
theorem StopsAt.result {d d' : Document} {refused : Change} {changes applied : List Change}
    (stops : d.StopsAt changes applied refused d') (version : Int) :
    d.applyChanges changes version = (d', some .inverted) ∧ d.applyWhole changes version = (d, some .inverted) := by
  obtain ⟨⟨rest, rfl⟩, made, inverted⟩ := stops
  suffices both : d.applyChanges (applied ++ refused :: rest) version = (d', some .inverted) ∧
      (applied ++ refused :: rest).foldlM applyChange d = .error .inverted by
    refine ⟨both.1, ?_⟩
    unfold applyWhole
    rw [both.2]
  induction applied generalizing d with
  | nil =>
    obtain rfl : d = d' := Except.ok.inj made
    have refuses : d.applyChange refused = .error .inverted := applyChange_eq_error_iff.2 inverted
    constructor
    · rw [List.nil_append, applyChanges, refuses]
    · rw [List.nil_append, List.foldlM_cons, refuses]
      rfl
  | cons c applied ih =>
    cases first : d.applyChange c with
    | error fault =>
      rw [List.foldlM_cons, first] at made
      cases made
    | ok d₁ =>
      rw [foldlM_cons_of_ok first] at made
      obtain ⟨result, whole⟩ := ih made
      constructor
      · rw [List.cons_append, applyChanges, first]
        exact result
      · rw [List.cons_append, foldlM_cons_of_ok first, whole]

/-- A batch is all or nothing if and only if no inverted change comes after changes that alter the text. Where
it stops, it leaves the document with the text that the changes before have made, the lines of that text, and
all else, its version too, as it was. -/
theorem applyChanges_eq_applyWhole_iff {d : Document} (reached : d.IsReached) (changes : List Change) (version : Int) :
    (d.applyChanges changes version = d.applyWhole changes version ↔
        ∀ applied refused d', d.StopsAt changes applied refused d' → d'.text = d.text) ∧
      ∀ applied refused d', d.StopsAt changes applied refused d' →
        d.applyChanges changes version = (d.withText d'.text, some .inverted) := by
  have indexed := reached.isIndexed
  constructor
  · constructor
    · intro same applied refused d' stops
      obtain ⟨half, nothing⟩ := stops.result version
      rw [half, nothing] at same
      rw [(Prod.mk.inj same).1]
    · intro kept
      rcases applyChanges_cases d changes version with ⟨d', made, result⟩ | ⟨applied, refused, d', stops⟩
      · rw [result, applyWhole, made]
      · have unchanged : d' = d := by
          rw [eq_withText_of_foldlM indexed stops.made, kept applied refused d' stops, withText_self indexed]
        obtain ⟨half, nothing⟩ := stops.result version
        rw [half, nothing, unchanged]
  · intro applied refused d' stops
    rw [(stops.result version).1, ← eq_withText_of_foldlM indexed stops.made]

/-- One line. -/
def oneLine : Document :=
  new default "abc" 1

/-- A change that ends before it starts. -/
def backwards : Change :=
  ⟨some ⟨⟨0, 2⟩, ⟨0, 1⟩⟩, ""⟩

/-- A change of everything. -/
def renewed : Change :=
  ⟨none, "new"⟩

theorem isInverted_backwards : oneLine.IsInverted backwards :=
  ⟨_, 2, 1, rfl, by decide, by decide, by decide⟩

/-- An inverted change in front of a batch leaves the document as it was; behind another change it stops the
batch there. -/
theorem applyChanges_eq_applyWhole_backwards :
    oneLine.IsReached ∧ oneLine.applyChanges [backwards, renewed] 2 = oneLine.applyWhole [backwards, renewed] 2 ∧
      oneLine.StopsAt [renewed, backwards] [renewed] backwards (new default "new" 1) ∧
      oneLine.applyChanges [renewed, backwards] 2 = (oneLine.withText "new", some .inverted) := by
  have reached : oneLine.IsReached := .new default "abc" 1
  have stops : oneLine.StopsAt [renewed, backwards] [renewed] backwards (new default "new" 1) :=
    ⟨⟨[], rfl⟩, rfl, ⟨_, 2, 1, rfl, by decide, by decide, by decide⟩⟩
  refine ⟨reached, (applyChanges_eq_applyWhole_iff reached _ 2).1.2 fun applied refused d' earlier => ?_, stops,
    (applyChanges_eq_applyWhole_iff reached _ 2).2 _ _ _ stops⟩
  obtain ⟨⟨rest, parts⟩, made, -⟩ := earlier
  cases applied with
  | nil => rw [← Except.ok.inj made]
  | cons c applied =>
    have refuses : oneLine.applyChange c = .error .inverted := by
      rw [← (List.cons.inj parts).1]
      exact applyChange_eq_error_iff.2 isInverted_backwards
    rw [List.foldlM_cons, refuses] at made
    cases made

/-- Half of this batch is made, and the document has another text under the version, and so under the
fingerprint, that it had before. -/
theorem halfBatch_keeps_version :
    oneLine.applyChanges [renewed, backwards] 2 = (new default "new" 1, some .inverted) ∧
      oneLine.text = "abc" ∧ oneLine.version = 1 ∧ (oneLine.applyChanges [renewed, backwards] 2).1.IsReached ∧
      ∀ file, (Snapshot.ofOpen file (oneLine.applyChanges [renewed, backwards] 2).1).fingerprint =
        (Snapshot.ofOpen file oneLine).fingerprint := by
  have half : oneLine.applyChanges [renewed, backwards] 2 = (new default "new" 1, some .inverted) := by decide
  refine ⟨half, rfl, rfl, .applyChanges (.new ..) _ _, fun file => ?_⟩
  rw [half]
  rfl

end ShaderAnalysis.Document
