import ShaderAnalysis.Proofs.Lexical.Enclosing

/-!
# What a query of the regions answers

Going down from the root, going up to braces and halving the arena are short cuts: each finds what a look at all
regions finds (`answers_of_scan`). Openers ascend with the index, so the region that starts last of some regions is the
last of them in the arena (`IsArenaOf.startsLast_iff`), and a search that halves the arena misses no opener
(`IsArenaOf.startingAt?_eq_some_iff`).
-/

namespace ShaderAnalysis.Brackets

/-- Of the bracketed regions with the property, region `id` starts last. -/
def StartsLast (t : Brackets) (P : Region → Prop) (id : Nat) : Prop :=
  ∃ r, 0 < id ∧ t.regions[id]? = some r ∧ P r ∧
    ∀ (other : Nat) (s : Region), 0 < other → t.regions[other]? = some s → P s → s.start ≤ r.start

/-- No bracketed region has the property. -/
def HasNo (t : Brackets) (P : Region → Prop) : Prop :=
  ∀ (id : Nat) (r : Region), 0 < id → t.regions[id]? = some r → ¬P r

/-- The answers at an offset of a text: the region that starts last of those around the offset, or the root; the one
that starts last of those with braces, if there is one; and the region of the opener at the offset, if the code has one
there. -/
structure AnswersAt (t : Brackets) (text : String) (offset : Nat) : Prop where
  innermost : ∀ id, 0 < id →
    (t.innermostAt offset = id ↔ t.StartsLast (fun r => r.start < offset ∧ offset < r.stop) id)
  root : t.innermostAt offset = 0 ↔ t.HasNo fun r => r.start < offset ∧ offset < r.stop
  braces : ∀ id, t.enclosingBrace? offset = some id ↔
    t.StartsLast (fun r => r.kind = .brace ∧ r.start < offset ∧ offset < r.stop) id
  noBraces : t.enclosingBrace? offset = none ↔
    t.HasNo fun r => r.kind = .brace ∧ r.start < offset ∧ offset < r.stop
  starting : ∀ r, t.startingAt? offset = some r ↔ ∃ id, 0 < id ∧ t.regions[id]? = some r ∧ r.start = offset
  opener : (t.startingAt? offset).map (·.kind) = (classified text)[offset]?.bind opened?

section Arena

variable {bs : List (UInt8 × ByteClass)} {t : Brackets} (arena : t.IsArenaOf bs)

include arena

theorem IsArenaOf.start_le {id other : Nat} {r s : Region} (bracketed : 0 < id) (le : id ≤ other)
    (here : t.regions[id]? = some r) (there : t.regions[other]? = some s) : r.start ≤ s.start := by
  rcases Nat.lt_or_eq_of_le le with less | rfl
  · exact Nat.le_of_lt (arena.ascending id other r s bracketed less here there)
  · cases here.symm.trans there
    exact Nat.le_refl _

/-- The region that starts last is the last one in the arena. -/
theorem IsArenaOf.startsLast_iff {P : Region → Prop} {id : Nat} : t.StartsLast P id ↔
    ∃ r, 0 < id ∧ t.regions[id]? = some r ∧ P r ∧
      ∀ (other : Nat) (s : Region), id < other → t.regions[other]? = some s → ¬P s := by
  constructor
  · rintro ⟨r, bracketed, here, holds, last⟩
    refine ⟨r, bracketed, here, holds, fun other s less there holds' => ?_⟩
    have := last other s (Nat.lt_trans bracketed less) there holds'
    have := arena.ascending id other r s bracketed less here there
    omega
  · rintro ⟨r, bracketed, here, holds, last⟩
    refine ⟨r, bracketed, here, holds, fun other s bracketed' there holds' => ?_⟩
    rcases Nat.lt_or_ge id other with later | earlier
    · exact absurd holds' (last other s later there)
    · exact arena.start_le bracketed' earlier there here

theorem IsArenaOf.innermostAt_eq_iff {offset id : Nat} (bracketed : 0 < id) :
    t.innermostAt offset = id ↔ t.StartsLast (fun r => r.start < offset ∧ offset < r.stop) id := by
  rw [arena.innermostAt_iff, arena.startsLast_iff]
  constructor
  · rintro ⟨around, last⟩
    have encloses := around.resolve_left (Nat.ne_of_gt bracketed)
    cases here : t.regions[id]? with
    | none => simp [Brackets.encloses, here] at encloses
    | some r =>
      refine ⟨r, bracketed, rfl, (encloses_iff here).1 encloses, fun other s less there bounds => ?_⟩
      have := last other less
      rw [(encloses_iff there).2 bounds] at this
      cases this
  · rintro ⟨r, -, here, bounds, last⟩
    refine ⟨.inr ((encloses_iff here).2 bounds), fun other less => ?_⟩
    rw [Bool.eq_false_iff]
    intro encloses
    cases there : t.regions[other]? with
    | none => simp [Brackets.encloses, there] at encloses
    | some s => exact last other s less there ((encloses_iff there).1 encloses)

theorem IsArenaOf.innermostAt_eq_zero_iff {offset : Nat} :
    t.innermostAt offset = 0 ↔ t.HasNo fun r => r.start < offset ∧ offset < r.stop := by
  constructor
  · intro isRoot id r bracketed here bounds
    have := (arena.innermostAt_iff.1 isRoot).2 id bracketed
    rw [(encloses_iff here).2 bounds] at this
    cases this
  · intro none
    by_contra other
    have bracketed := Nat.pos_of_ne_zero other
    obtain ⟨r, -, here, bounds, -⟩ := (arena.innermostAt_eq_iff bracketed).1 rfl
    exact none _ r bracketed here bounds

omit arena in
theorem hasNo_brace_iff {offset : Nat} (bracketed : ∀ (id : Nat) (r : Region), t.regions[id]? = some r →
    r.kind = .brace → 0 < id) :
    (t.HasNo fun r => r.kind = .brace ∧ r.start < offset ∧ offset < r.stop) ↔ ¬t.InBraces offset := by
  constructor
  · rintro none ⟨id, r, here, kind, bounds⟩
    exact none id r (bracketed id r here kind) here ⟨kind, bounds⟩
  · rintro outside id r - here ⟨kind, bounds⟩
    exact outside ⟨id, r, here, kind, bounds⟩

theorem IsArenaOf.startsLast_brace_iff {offset id : Nat} :
    t.StartsLast (fun r => r.kind = .brace ∧ r.start < offset ∧ offset < r.stop) id ↔ t.IsLastBrace offset id := by
  rw [arena.startsLast_iff]
  constructor
  · rintro ⟨r, -, here, ⟨kind, bounds⟩, last⟩
    refine ⟨⟨r, here, kind⟩, (encloses_iff here).2 bounds, fun other s less there isBrace => ?_⟩
    rw [Bool.eq_false_iff]
    exact fun encloses => last other s less there ⟨isBrace, (encloses_iff there).1 encloses⟩
  · rintro ⟨⟨r, here, kind⟩, around, last⟩
    refine ⟨r, arena.pos_of_brace here kind, here, ⟨kind, (encloses_iff here).1 around⟩, ?_⟩
    rintro other s less there ⟨isBrace, bounds⟩
    have := last other s less there isBrace
    rw [(encloses_iff there).2 bounds] at this
    cases this

theorem IsArenaOf.enclosingBrace?_eq_some_iff {offset id : Nat} : t.enclosingBrace? offset = some id ↔
    t.StartsLast (fun r => r.kind = .brace ∧ r.start < offset ∧ offset < r.stop) id := by
  rw [arena.startsLast_brace_iff]
  rcases arena.enclosingBrace?_cases offset with ⟨found, isFound, isLast⟩ | ⟨nothing, outside⟩
  · rw [isFound, Option.some.injEq]
    constructor
    · rintro rfl
      exact isLast
    · intro isLast'
      -- of two different ones, the later one would enclose the offset
      have unique {a b : Nat} (first : t.IsLastBrace offset a) (second : t.IsLastBrace offset b) : ¬a < b := by
        intro less
        obtain ⟨r, here, kind⟩ := second.braces
        have := first.last b r less here kind
        rw [second.around] at this
        cases this
      exact Nat.le_antisymm (Nat.not_lt.1 (unique isLast' isLast)) (Nat.not_lt.1 (unique isLast isLast'))
  · rw [nothing]
    exact iff_of_false nofun fun isLast => outside isLast.inBraces

theorem IsArenaOf.enclosingBrace?_eq_none_iff {offset : Nat} : t.enclosingBrace? offset = none ↔
    t.HasNo fun r => r.kind = .brace ∧ r.start < offset ∧ offset < r.stop := by
  rw [hasNo_brace_iff fun _ _ here kind => arena.pos_of_brace here kind, ← Option.isNone_iff_eq_none]
  exact arena.isTopLevel_iff

/-- Half of the regions are left out at each step, and the one that starts at the offset is never among them. -/
theorem IsArenaOf.startingWithin?_of_start {offset low high id : Nat} {r : Region} (positive : 0 < low)
    (fits : high ≤ t.regions.size) (least : low ≤ id) (most : id < high) (here : t.regions[id]? = some r)
    (starts : r.start = offset) : t.startingWithin? offset low high = some r := by
  fun_induction t.startingWithin? offset low high with
  | case1 low high less middle outside =>
    have := Array.getElem?_eq_none_iff.1 outside
    omega
  | case2 low high less middle s there starts' =>
    rcases Nat.lt_trichotomy id middle with before | rfl | behind
    · have := arena.ascending id middle r s (by omega) before here there
      omega
    · exact there.symm.trans here
    · have := arena.ascending middle id s r (by omega) behind there here
      omega
  | case3 low high less middle s there other early ih =>
    refine ih (by omega) fits ?_ most
    by_contra notBehind
    have := arena.start_le (by omega) (Nat.le_of_lt_succ (Nat.not_le.1 notBehind)) here there
    omega
  | case4 low high less middle s there other late ih =>
    refine ih positive (by omega) least ?_
    by_contra notBefore
    have := arena.start_le (by omega) (Nat.not_lt.1 notBefore) there here
    omega
  | case5 low high empty => omega

theorem IsArenaOf.startingAt?_eq_some_iff {offset : Nat} {r : Region} : t.startingAt? offset = some r ↔
    ∃ id, 0 < id ∧ t.regions[id]? = some r ∧ r.start = offset := by
  constructor
  · exact startingWithin?_eq_some
  · rintro ⟨id, bracketed, here, starts⟩
    have inside := (Array.getElem?_eq_some_iff.1 here).1
    exact arena.startingWithin?_of_start Nat.one_pos (Nat.le_refl _) bracketed inside here starts

/-- A region starts where the code has an opener, and is of its kind. -/
theorem IsArenaOf.kind_startingAt? (offset : Nat) : (t.startingAt? offset).map (·.kind) = bs[offset]?.bind opened? := by
  cases found : t.startingAt? offset with
  | some r =>
    obtain ⟨id, bracketed, here, starts⟩ := arena.startingAt?_eq_some_iff.1 found
    have opens := arena.opener id r bracketed here
    rw [starts] at opens
    exact opens.symm
  | none =>
    cases opens : bs[offset]?.bind opened? with
    | none => rfl
    | some kind =>
      obtain ⟨id, r, bracketed, here, starts, -⟩ := arena.opened offset kind opens
      rw [arena.startingAt?_eq_some_iff.2 ⟨id, bracketed, here, starts⟩] at found
      cases found

end Arena

/-- A scan that is not cancelled gives regions whose queries answer, at every offset, what a look at all of them
answers. -/
theorem answers_of_scan (oracle : Oracle) (asked : Nat) (text : String)
    (wanted : oracle.cancelsWithin asked (Lexical.questions text) = false) :
    ∃ t count, scan oracle asked text = .ok (t, count) ∧ ∀ offset, t.AnswersAt text offset := by
  have arena : (ofText text).IsArenaOf (classified text) := isArenaOf_ofBytes (classified text)
  refine ⟨ofText text, asked + Lexical.questions text, ?_, fun offset => ?_⟩
  · rw [scan, Lexical.scan, wanted]
    rfl
  · exact {
      innermost := fun _ bracketed => arena.innermostAt_eq_iff bracketed
      root := arena.innermostAt_eq_zero_iff
      braces := fun _ => arena.enclosingBrace?_eq_some_iff
      noBraces := arena.enclosingBrace?_eq_none_iff
      starting := fun _ => arena.startingAt?_eq_some_iff
      opener := arena.kind_startingAt? offset }

/-- Braces that are sealed where the parenthesis around them is closed, and a parenthesis that is never closed. -/
def sealedText : String :=
  "f(\x7b a)(b"

/-- The opener of the text that is never closed is found like the others. -/
theorem answers_of_sealedText : Oracle.never.cancelsWithin 0 (Lexical.questions sealedText) = false ∧
    ∃ t count, scan .never 0 sealedText = .ok (t, count) ∧ ∀ offset, t.AnswersAt sealedText offset := by
  have wanted := Oracle.cancelsWithin_never 0 (Lexical.questions sealedText)
  exact ⟨wanted, answers_of_scan .never 0 sealedText wanted⟩

/-- The braces end at the closer, which lies in the parenthesis only. -/
example : [3, 4, 5, 7].map (fun offset => ((ofText sealedText).innermostAt offset, (ofText sealedText).enclosingBrace?
    offset)) = [(2, some 2), (2, some 2), (1, none), (3, none)] := by
  decide +kernel

end ShaderAnalysis.Brackets
