import ShaderAnalysis.Proofs.Outline.Prepared

/-!
# Braces around an offset

The innermost braces around an offset are found going up from the innermost region around it. What is passed over on
the way up are parentheses, so what is found are the last braces around the offset (`IsArenaOf.enclosingBrace?_cases`),
and none are found if and only if none enclose it (`isTopLevel_iff`). Where no bracket stands between two offsets, the
same braces enclose both of them (`inBraces_congr`).
-/

namespace ShaderAnalysis.Brackets

/-- Braces of the text enclose the offset. -/
def InBraces (t : Brackets) (offset : Nat) : Prop :=
  ∃ (id : Nat) (r : Region), t.regions[id]? = some r ∧ r.kind = .brace ∧ r.start < offset ∧ offset < r.stop

section Arena

variable {bs : List (UInt8 × ByteClass)} {t : Brackets} (arena : t.IsArenaOf bs)

include arena

/-- The root has no brackets. -/
theorem IsArenaOf.pos_of_brace {id : Nat} {r : Region} (here : t.regions[id]? = some r) (kind : r.kind = .brace) :
    0 < id := by
  rcases Nat.eq_zero_or_pos id with rfl | bracketed
  · obtain ⟨children, root⟩ := arena.root
    cases here.symm.trans root
    cases kind
  · exact bracketed

/-- Region `id` is the last one of the arena that encloses the offset with braces. -/
structure IsLastBrace (t : Brackets) (offset id : Nat) : Prop where
  braces : ∃ r, t.regions[id]? = some r ∧ r.kind = .brace
  around : t.encloses offset id = true
  last : ∀ (other : Nat) (r : Region), id < other → t.regions[other]? = some r → r.kind = .brace →
    t.encloses offset other = false

omit arena in
theorem IsLastBrace.inBraces {offset id : Nat} (last : t.IsLastBrace offset id) : t.InBraces offset := by
  obtain ⟨r, here, kind⟩ := last.braces
  exact ⟨id, r, here, kind, (encloses_iff here).1 last.around⟩

/-- Going up from a region around the offset, behind which no braces enclose it, finds the last braces around the
offset, if there are any. -/
theorem IsArenaOf.braceAbove?_cases {offset id : Nat} (inside : id < t.regions.size)
    (around : id = 0 ∨ t.encloses offset id = true)
    (last : ∀ (other : Nat) (r : Region), id < other → t.regions[other]? = some r → r.kind = .brace →
      t.encloses offset other = false) :
    (∃ found, t.braceAbove? id = some found ∧ t.IsLastBrace offset found) ∨
      t.braceAbove? id = none ∧ ¬t.InBraces offset := by
  induction id using Nat.strongRecOn with
  | ind id ih =>
    have here : t.regions[id]? = some t.regions[id] := Array.getElem?_eq_getElem inside
    generalize t.regions[id] = r at here
    rw [braceAbove?, here]
    dsimp only
    split
    · -- the region itself
      rename_i kind
      have encloses : t.encloses offset id = true :=
        around.resolve_left (Nat.ne_of_gt (arena.pos_of_brace here kind))
      exact .inl ⟨id, rfl, ⟨r, here, kind⟩, encloses, last⟩
    · rename_i kind
      rcases Nat.eq_zero_or_pos id with rfl | bracketed
      · -- the root
        obtain ⟨children, root⟩ := arena.root
        cases here.symm.trans root
        refine .inr ⟨rfl, ?_⟩
        rintro ⟨other, s, there, isBrace, bounds⟩
        have := last other s (arena.pos_of_brace there isBrace) there isBrace
        rw [(encloses_iff there).2 bounds] at this
        cases this
      · obtain ⟨above, outer, isAbove, before, isOuter, start, covers⟩ := arena.parent id r bracketed here
        rw [isAbove]
        dsimp only
        rw [if_pos before]
        have bounds := (encloses_iff here).1 (around.resolve_left (Nat.ne_of_gt bracketed))
        refine ih above before (Nat.lt_trans before inside) (.inr ?_) fun other s less there isBrace => ?_
        · rw [encloses_iff isOuter]
          omega
        · rcases Nat.lt_trichotomy other id with earlier | rfl | later
          · -- it has ended where the region starts
            have := arena.stop_le_of_between there here isAbove less earlier
            rw [Bool.eq_false_iff]
            intro encloses
            have := (encloses_iff there).1 encloses
            omega
          · cases here.symm.trans there
            exact absurd isBrace kind
          · exact last other s later there isBrace

theorem IsArenaOf.enclosingBrace?_cases (offset : Nat) :
    (∃ found, t.enclosingBrace? offset = some found ∧ t.IsLastBrace offset found) ∨
      t.enclosingBrace? offset = none ∧ ¬t.InBraces offset := by
  obtain ⟨around, last⟩ := arena.innermostAt_iff.1 (rfl : t.innermostAt offset = t.innermostAt offset)
  obtain ⟨children, root⟩ := arena.root
  have inside : t.innermostAt offset < t.regions.size := by
    rcases around with isRoot | encloses
    · rw [isRoot]
      exact (Array.getElem?_eq_some_iff.1 root).1
    · by_contra outside
      simp [Brackets.encloses, Array.getElem?_eq_none (Nat.not_lt.1 outside)] at encloses
  exact arena.braceAbove?_cases inside around fun other _ less _ _ => last other less

theorem IsArenaOf.isTopLevel_iff {offset : Nat} : t.isTopLevel offset = true ↔ ¬t.InBraces offset := by
  rw [isTopLevel]
  rcases arena.enclosingBrace?_cases offset with ⟨found, isFound, last⟩ | ⟨nothing, outside⟩
  · rw [isFound]
    exact iff_of_false (by simp) (not_not_intro last.inBraces)
  · rw [nothing]
    exact iff_of_true rfl outside

end Arena

variable {text : String} {offset : Nat}

theorem isTopLevel_ofText : (ofText text).isTopLevel offset = true ↔ ¬(ofText text).InBraces offset :=
  (isArenaOf_ofText text).isTopLevel_iff

/-- From `low` up to `high` the text has no brackets. -/
def Unbracketed (text : String) (low high : Nat) : Prop :=
  ∀ i b, low ≤ i → i < high → (Text.bytes text)[i]? = some b →
    BracketKind.openedBy? b = none ∧ BracketKind.closedBy? b = none

/-- The character is no bracket. -/
def IsPlain (c : Char) : Prop :=
  c ≠ '(' ∧ c ≠ ')' ∧ c ≠ '\x7b' ∧ c ≠ '\x7d'

theorem isPlain_of_isBlank {c : Char} (blank : Text.isBlank c = true) : IsPlain c := by
  refine ⟨?_, ?_, ?_, ?_⟩ <;> rintro rfl <;> exact absurd blank (by decide)

theorem isPlain_of_isWordChar {c : Char} (isChar : Text.isWordChar c = true) : IsPlain c := by
  refine ⟨?_, ?_, ?_, ?_⟩ <;> rintro rfl <;> exact absurd isChar (by decide)

/-- Characters without brackets among them. -/
theorem unbracketed_of_append {front mid back : List Char} (chars : text.toList = front ++ (mid ++ back))
    (plain : ∀ c ∈ mid, IsPlain c) :
    Unbracketed text (Text.length8 front) (Text.length8 front + Text.length8 mid) := by
  intro i b start stop here
  have other (n : UInt8) (c : Char) (isByte : c.toNat = n.toNat) (ascii : n.toNat < 128) (absent : c ∉ mid) : b ≠ n := by
    rintro rfl
    obtain ⟨c', member, same⟩ := Text.exists_mem_of_ascii chars here ascii start stop
    have : c' = c := Char.toNat_inj.1 (same.trans isByte.symm)
    exact absent (this ▸ member)
  have opening : b ≠ 40 ∧ b ≠ 123 :=
    ⟨other 40 '(' rfl (by decide) fun member => (plain _ member).1 rfl,
      other 123 '\x7b' rfl (by decide) fun member => (plain _ member).2.2.1 rfl⟩
  have closing : b ≠ 41 ∧ b ≠ 125 :=
    ⟨other 41 ')' rfl (by decide) fun member => (plain _ member).2.1 rfl,
      other 125 '\x7d' rfl (by decide) fun member => (plain _ member).2.2.2 rfl⟩
  constructor
  · rw [BracketKind.openedBy?, if_neg opening.1, if_neg opening.2]
  · rw [BracketKind.closedBy?, if_neg closing.1, if_neg closing.2]

theorem openedBy?_of_opened? {x : UInt8 × ByteClass} {kind : BracketKind} (opens : opened? x = some kind) :
    BracketKind.openedBy? x.1 = some kind := by
  unfold opened? at opens
  split at opens
  · exact opens
  · cases opens

theorem closedBy?_of_closed? {x : UInt8 × ByteClass} {kind : BracketKind} (closes : closed? x = some kind) :
    BracketKind.closedBy? x.1 = some kind := by
  unfold closed? at closes
  split at closes
  · exact closes
  · cases closes

/-- Where no bracket is between two offsets, the same braces enclose both. -/
theorem inBraces_congr {low : Nat} (le : low ≤ offset) (inside : offset < (Text.bytes text).length)
    (plain : Unbracketed text low (offset + 1)) : (ofText text).InBraces low ↔ (ofText text).InBraces offset := by
  have arena := isArenaOf_ofText text
  constructor
  · rintro ⟨id, r, here, kind, start, stop⟩
    refine ⟨id, r, here, kind, by omega, ?_⟩
    by_contra ended
    -- the region would end at a closer between the two offsets
    have closer {i : Nat} (behind : low ≤ i) (before : i ≤ offset) {other : BracketKind}
        (closes : (classified text)[i]?.bind closed? = some other) : False := by
      obtain ⟨x, isThere, closes⟩ := Option.bind_eq_some_iff.1 closes
      have := (plain i x.1 behind (by omega) (getElem?_classified isThere).1).2
      rw [closedBy?_of_closed? closes] at this
      cases this
    cases isClosed : r.closed with
    | true => exact closer (by omega) (by omega) (arena.closer id r (arena.pos_of_brace here kind) here isClosed)
    | false =>
      rcases arena.sealed id r (arena.pos_of_brace here kind) here isClosed with atEnd | ⟨_, _, -, -, -, -, -, -, closes⟩
      · rw [length_classified] at atEnd
        omega
      · exact closer (by omega) (by omega) closes
  · rintro ⟨id, r, here, kind, start, stop⟩
    refine ⟨id, r, here, kind, ?_, by omega⟩
    by_contra behind
    obtain ⟨x, isThere, opens⟩ := Option.bind_eq_some_iff.1 (arena.opener id r (arena.pos_of_brace here kind) here)
    have := (plain r.start x.1 (by omega) (by omega) (getElem?_classified isThere).1).1
    rw [openedBy?_of_opened? opens] at this
    cases this

/-- Characters that are no brackets, and a word behind them, are in the same braces. -/
theorem inBraces_iff_of_append {front mid after : List Char} {first : Char}
    (chars : text.toList = front ++ (mid ++ first :: after)) (plain : ∀ c ∈ mid, IsPlain c)
    (isFirst : Text.isWordChar first = true) :
    (ofText text).InBraces (Text.length8 front) ↔ (ofText text).InBraces (Text.length8 front + Text.length8 mid) := by
  have split : text.toList = front ++ ((mid ++ [first]) ++ after) := by
    rw [chars]
    simp only [List.append_assoc, List.singleton_append]
  have unbracketed := unbracketed_of_append split fun c member => by
    rcases List.mem_append.1 member with inMid | isLast
    · exact plain c inMid
    · exact List.mem_singleton.1 isLast ▸ isPlain_of_isWordChar isFirst
  have size : (Text.bytes text).length = Text.length8 front + (Text.length8 mid + Text.length8 (first :: after)) := by
    rw [Text.bytes_eq_encode8, Text.length_encode8, chars, Text.length8_append, Text.length8_append]
  have one : 0 < Text.length8 [first] := Text.length8_pos
  have behind : 0 < Text.length8 (first :: after) := Text.length8_pos
  refine inBraces_congr (Nat.le_add_right ..) (by omega) fun i b low high => unbracketed i b low ?_
  rw [Text.length8_append]
  omega

/-- The body of braces is in them. -/
theorem inBraces_of_braceAt? {start : Nat} {region body : Span}
    (h : (ofText text).braceAt? start = some (region, body)) (low : body.start ≤ offset) (high : offset < body.stop) :
    (ofText text).InBraces offset := by
  obtain ⟨id, r, bracketed, here, -, kind, -, rfl⟩ := braceAt?_eq_some h
  refine ⟨id, r, here, kind, ?_⟩
  have := (isArenaOf_ofText text).bounds id r bracketed here
  rw [Region.inner, kind] at low high
  dsimp only at low high
  rw [Span.start_between] at low
  rw [Span.stop_between] at high
  split at high <;> omega

end ShaderAnalysis.Brackets
