import ShaderAnalysis.Proofs.Lexical.Matching

/-!
# The innermost region around an offset

Two regions of a text are apart, or one lies in the other (`IsArenaOf.apart_or_within`). So going down from the
root, into the first child around the offset each time, ends at the last region of the arena that encloses the
offset, which is the innermost one (`IsArenaOf.innermostAt_iff`); for the offset of an opener it is the parent of
the new region (`IsArenaOf.parent_eq`). While the text is read it is the region on top of the stack, unless a
bracket is closed there (`innermostAt_ofBytes`).
-/

namespace ShaderAnalysis.Brackets

theorem encloses_iff {t : Brackets} {offset id : Nat} {r : Region} (here : t.regions[id]? = some r) :
    t.encloses offset id = true ↔ r.start < offset ∧ offset < r.stop := by
  simp [encloses, here, Region.encloses]

/-! ## Regions are apart or nested -/

section Arena

variable {bs : List (UInt8 × ByteClass)} {t : Brackets} (arena : t.IsArenaOf bs)

include arena

/-- Of two siblings, the earlier one has ended where the later one starts. -/
theorem IsArenaOf.stop_le_of_siblings {id other above : Nat} {r s : Region} (here : t.regions[id]? = some r)
    (there : t.regions[other]? = some s) (isParent : r.parent = some above) (isParent' : s.parent = some above)
    (bracketed : 0 < id) (less : id < other) : r.stop ≤ s.start := by
  obtain ⟨above', outer, isAbove, -, isOuter, -⟩ := arena.parent id r bracketed here
  cases isAbove.symm.trans isParent
  have isChild := (arena.children above outer id isOuter).2 ⟨r, here, isParent⟩
  have isChild' := (arena.children above outer other isOuter).2 ⟨s, there, isParent'⟩
  obtain ⟨i, low, isFirst⟩ := List.mem_iff_getElem.1 isChild
  obtain ⟨j, high, isSecond⟩ := List.mem_iff_getElem.1 isChild'
  have ordered := List.pairwise_iff_getElem.1 (arena.siblings above outer isOuter)
  rcases Nat.lt_trichotomy i j with before | rfl | behind
  · have := ordered i j low high before
    rw [isFirst, isSecond] at this
    exact this r s here there
  · exact absurd (isFirst.symm.trans isSecond) (Nat.ne_of_lt less)
  · have := ordered j i high low behind
    rw [isFirst, isSecond] at this
    have := this s r there here
    have := arena.ascending id other r s bracketed less here there
    have := arena.bounds other s (Nat.lt_trans bracketed less) there
    omega

/-- What stands in the arena between a region and its parent has ended where the region starts. -/
theorem IsArenaOf.stop_le_of_between {id other above : Nat} {r s : Region} (here : t.regions[id]? = some r)
    (there : t.regions[other]? = some s) (isParent : s.parent = some above) (behind : above < id)
    (before : id < other) : r.stop ≤ s.start := by
  induction other using Nat.strongRecOn generalizing id above r s with
  | ind other ihOther =>
    induction id using Nat.strongRecOn generalizing r with
    | ind id ihId =>
      have bracketed : 0 < id := Nat.zero_lt_of_lt behind
      obtain ⟨up, outer, isUp, less, isOuter, start, covers⟩ := arena.parent id r bracketed here
      rcases Nat.lt_trichotomy up above with higher | rfl | lower
      · -- the parent of the later region would end in front of it
        obtain ⟨above', around, isAbove, -, isAround, -, within⟩ :=
          arena.parent other s (Nat.lt_trans bracketed before) there
        cases isAbove.symm.trans isParent
        have early := ihOther id before isAround here isUp higher behind
        have := arena.ascending id other r s bracketed before here there
        have := arena.bounds other s (Nat.lt_trans bracketed before) there
        omega
      · exact arena.stop_le_of_siblings here there isUp isParent bracketed before
      · exact Nat.le_trans covers (ihId up less isOuter lower (Nat.lt_trans less before))

/-- Two regions are apart, or the later one lies in the earlier one. -/
theorem IsArenaOf.apart_or_within {id other : Nat} {r s : Region} (here : t.regions[id]? = some r)
    (there : t.regions[other]? = some s) (less : id < other) :
    r.stop ≤ s.start ∨ r.start ≤ s.start ∧ s.stop ≤ r.stop := by
  induction other using Nat.strongRecOn generalizing s with
  | ind other ih =>
    obtain ⟨above, outer, isAbove, before, isOuter, start, covers⟩ :=
      arena.parent other s (Nat.zero_lt_of_lt less) there
    rcases Nat.lt_trichotomy above id with higher | rfl | lower
    · exact .inl (arena.stop_le_of_between here there isAbove higher less)
    · cases here.symm.trans isOuter
      exact .inr ⟨start, covers⟩
    · rcases ih above before isOuter lower with apart | ⟨start', covers'⟩
      · exact .inl (Nat.le_trans apart start)
      · exact .inr ⟨Nat.le_trans start' start, Nat.le_trans covers covers'⟩

/-! ## Going down -/

/-- Where no child of a region encloses an offset that the region encloses, no later region does. -/
theorem IsArenaOf.not_encloses_of_childAround?_eq_none {offset id other : Nat} {r : Region}
    (here : t.regions[id]? = some r) (around : id = 0 ∨ t.encloses offset id = true)
    (childless : t.childAround? offset id = none) (less : id < other) : t.encloses offset other = false := by
  induction other using Nat.strongRecOn with
  | ind other ih =>
    rw [Bool.eq_false_iff]
    intro encloses
    have inside : other < t.regions.size := by
      by_contra outside
      simp [Brackets.encloses, Array.getElem?_eq_none (Nat.not_lt.1 outside)] at encloses
    have there : t.regions[other]? = some t.regions[other] := Array.getElem?_eq_getElem inside
    obtain ⟨above, outer, isAbove, before, isOuter, start, covers⟩ :=
      arena.parent other _ (Nat.zero_lt_of_lt less) there
    have bounds := (encloses_iff there).1 encloses
    rcases Nat.lt_trichotomy above id with higher | rfl | lower
    · -- the region has ended in front of the later one, so it does not enclose the offset
      have early := arena.stop_le_of_between here there isAbove higher less
      rcases around with rfl | isAround
      · exact Nat.not_lt_zero above higher
      · have := (encloses_iff here).1 isAround
        omega
    · cases here.symm.trans isOuter
      have isChild := (arena.children above r other here).2 ⟨_, there, isAbove⟩
      have notAround := List.find?_eq_none.1 childless other
      simp only [here, Option.map_some, Option.getD_some] at notAround
      exact notAround isChild (by simp [less, inside, encloses])
    · have aroundParent : t.encloses offset above = true := by
        rw [encloses_iff isOuter]
        omega
      rw [ih above before lower] at aroundParent
      cases aroundParent

/-- The last region of the arena that encloses the offset, or the root if there is none. -/
def IsInnermost (t : Brackets) (offset id : Nat) : Prop :=
  (id = 0 ∨ t.encloses offset id = true) ∧ ∀ other, id < other → t.encloses offset other = false

omit arena in
theorem childAround?_encloses {offset id child : Nat} (h : t.childAround? offset id = some child) :
    t.encloses offset child = true := by
  have := List.find?_some h
  simp only [Bool.and_eq_true] at this
  exact this.2

theorem IsArenaOf.isInnermost_innermostBelow {offset id : Nat} (inside : id < t.regions.size)
    (around : id = 0 ∨ t.encloses offset id = true) : t.IsInnermost offset (t.innermostBelow offset id) := by
  fun_induction t.innermostBelow offset id with
  | case1 id childless =>
    have here : t.regions[id]? = some t.regions[id] := Array.getElem?_eq_getElem inside
    exact ⟨around, fun other less => arena.not_encloses_of_childAround?_eq_none here around childless less⟩
  | case2 id child isChild ih => exact ih (childAround?_bounds isChild).2 (.inr (childAround?_encloses isChild))

/-- Going down finds the innermost region around an offset. -/
theorem IsArenaOf.innermostAt_iff {offset id : Nat} : t.innermostAt offset = id ↔ t.IsInnermost offset id := by
  obtain ⟨children, root⟩ := arena.root
  have found : t.IsInnermost offset (t.innermostAt offset) :=
    arena.isInnermost_innermostBelow (Array.getElem?_eq_some_iff.1 root).1 (.inl rfl)
  constructor
  · rintro rfl
    exact found
  · intro isInnermost
    -- of two different ones, the later one encloses the offset
    have unique {a b : Nat} (first : t.IsInnermost offset a) (second : t.IsInnermost offset b) : ¬a < b := by
      intro less
      rcases second.1 with rfl | around
      · exact Nat.not_lt_zero a less
      · rw [first.2 b less] at around
        cases around
    exact Nat.le_antisymm (Nat.not_lt.1 (unique isInnermost found)) (Nat.not_lt.1 (unique found isInnermost))

/-- The parent of a region is the innermost region around its opener. -/
theorem IsArenaOf.parent_eq {id : Nat} {r : Region} (bracketed : 0 < id) (here : t.regions[id]? = some r) :
    r.parent = some (t.innermostAt r.start) := by
  obtain ⟨above, outer, isAbove, before, isOuter, -, covers⟩ := arena.parent id r bracketed here
  have bounds := arena.bounds id r bracketed here
  rw [isAbove, Option.some.injEq, eq_comm, arena.innermostAt_iff]
  constructor
  · rw [encloses_iff isOuter]
    rcases Nat.eq_zero_or_pos above with root | positive
    · exact .inl root
    · have := arena.ascending above id outer r positive before isOuter here
      exact .inr (by omega)
  · intro other less
    rw [Bool.eq_false_iff]
    intro encloses
    cases there : t.regions[other]? with
    | none => simp [Brackets.encloses, there] at encloses
    | some s =>
      have := (encloses_iff there).1 encloses
      rcases Nat.lt_trichotomy other id with earlier | rfl | later
      · have := arena.stop_le_of_between there here isAbove less earlier
        omega
      · cases here.symm.trans there
        omega
      · have := arena.ascending id other r s bracketed later here there
        omega

end Arena

/-! ## Reading on -/

namespace Pending

variable {size offset : Nat} {p q : Pending} {bs : List (UInt8 × ByteClass)}

/-- From `p` to `q` bytes from `offset` on are read: regions that have ended stay what they are, those that are
pending end there or later, and new ones start there or later. -/
structure Continues (offset : Nat) (p q : Pending) : Prop where
  kept : ∀ id r, p.regions[id]? = some r → ∃ s, q.regions[id]? = some s ∧ s.start = r.start ∧
    (id ∈ p.stack → offset ≤ s.stop) ∧ (id ∉ p.stack → s.stop = r.stop)
  stack : ∀ id ∈ q.stack, id ∈ p.stack ∨ p.regions.size ≤ id
  new : ∀ id s, p.regions.size ≤ id → q.regions[id]? = some s → offset ≤ s.start

theorem Continues.refl (nested : p.IsNested size offset) (fits : offset ≤ size) : p.Continues offset p where
  kept := by
    intro id r here
    refine ⟨r, here, rfl, fun isPending => ?_, fun _ => rfl⟩
    obtain ⟨-, r', here', stop, -⟩ := nested.pending id isPending
    cases here.symm.trans here'
    rwa [stop]
  stack := fun _ isPending => .inl isPending
  new := fun _ _ isNew here => absurd (Array.getElem?_eq_some_iff.1 here).1 (Nat.not_lt.2 isNew)

theorem Continues.trans {later : Nat} {s : Pending} (first : p.Continues offset q) (second : q.Continues later s)
    (le : offset ≤ later) : p.Continues offset s where
  kept := by
    intro id r here
    obtain ⟨r', here', start, pending, ended⟩ := first.kept id r here
    obtain ⟨r'', here'', start', pending', ended'⟩ := second.kept id r' here'
    refine ⟨r'', here'', start'.trans start, fun isPending => ?_, fun notPending => ?_⟩
    · by_cases still : id ∈ q.stack
      · exact Nat.le_trans le (pending' still)
      · rw [ended' still]
        exact pending isPending
    · have notPending' : id ∉ q.stack := fun isPending =>
        (first.stack id isPending).elim notPending (Nat.not_le.2 (Array.getElem?_eq_some_iff.1 here).1)
      rw [ended' notPending', ended notPending]
  stack := by
    intro id isPending
    rcases second.stack id isPending with old | isNew
    · exact first.stack id old
    · by_cases wasNew : p.regions.size ≤ id
      · exact .inr wasNew
      · obtain ⟨r, here⟩ : ∃ r, p.regions[id]? = some r := ⟨_, Array.getElem?_eq_getElem (Nat.not_le.1 wasNew)⟩
        obtain ⟨r', here', -⟩ := first.kept id r here
        exact absurd (Array.getElem?_eq_some_iff.1 here').1 (Nat.not_lt.2 isNew)
  new := by
    intro id s isNew here
    cases there : q.regions[id]? with
    | none => exact Nat.le_trans le (second.new id s (Array.getElem?_eq_none_iff.1 there) here)
    | some r =>
      obtain ⟨s', here', start, -⟩ := second.kept id r there
      cases here.symm.trans here'
      rw [start]
      exact first.new id r isNew there

theorem continues_enter (nested : p.IsNested size offset) (fits : offset ≤ size) (kind : BracketKind) :
    p.Continues offset (p.enter size offset kind) where
  kept := by
    intro id r here
    obtain ⟨r', same, -, pending, ended⟩ := (Continues.refl nested fits).kept id r here
    cases here.symm.trans same
    exact ⟨_, getElem?_enter_of_some here, rfl, pending, ended⟩
  stack := by
    intro id isPending
    rcases List.mem_cons.1 isPending with rfl | older
    · exact .inr (Nat.le_refl _)
    · exact .inl older
  new := by
    intro id s isNew here
    rcases enter_cases here with ⟨-, rfl⟩ | ⟨-, old, isOld, -⟩
    · exact Nat.le_refl offset
    · exact absurd (Array.getElem?_eq_some_iff.1 isOld).1 (Nat.not_lt.2 isNew)

theorem continues_leave (nested : p.IsNested size offset) (fits : offset ≤ size) (kind : BracketKind) :
    p.Continues offset (p.leave offset kind) := by
  rcases leave_cases p offset kind with ⟨same, -⟩ | ⟨skipped, matched, stack, stacked, left, -, -, regions⟩
  · rw [same]
    exact .refl nested fits
  constructor
  · intro id r here
    obtain ⟨r', same, -, pending, -⟩ := (Continues.refl nested fits).kept id r here
    cases here.symm.trans same
    have isEnded : (p.leave offset kind).regions[id]? = some (ended offset skipped matched id r) := by
      rw [regions, here, Option.map_some]
    refine ⟨_, isEnded, rfl, fun isPending => ?_, fun notPending => ?_⟩
    · simp only [Pending.ended]
      split
      · exact Nat.le_succ offset
      · split
        · exact Nat.le_refl offset
        · exact pending isPending
    · simp only [stacked, List.mem_append, List.mem_cons, not_or] at notPending
      rw [ended_of_ne _ _ _ _ notPending.2.1 notPending.1]
  · intro id isPending
    rw [left] at isPending
    exact .inl (by simp [stacked, isPending])
  · intro id s isNew here
    rw [regions] at here
    obtain ⟨old, isOld, -⟩ := Option.map_eq_some_iff.1 here
    exact absurd (Array.getElem?_eq_some_iff.1 isOld).1 (Nat.not_lt.2 isNew)

theorem continues_run (nested : p.IsNested size offset) (fits : offset + bs.length = size) :
    p.Continues offset (p.run size offset bs) := by
  induction bs generalizing p offset with
  | nil => exact .refl nested (Nat.le_of_eq fits)
  | cons x bs ih =>
    rw [List.length_cons] at fits
    have inside : offset < size := by omega
    have stepped : p.Continues offset (p.step size offset x.1 x.2) :=
      step_induction x (fun kind _ => continues_enter nested (Nat.le_of_lt inside) kind)
        (fun kind _ => continues_leave nested (Nat.le_of_lt inside) kind)
        fun _ _ => .refl nested (Nat.le_of_lt inside)
    exact stepped.trans (ih (nested.step inside x) (by omega)) (Nat.le_succ offset)

/-- What is pending stays so unless a bracket is closed. -/
theorem mem_stack_step {x : UInt8 × ByteClass} (closes : closed? x = none) {id : Nat} (isPending : id ∈ p.stack) :
    id ∈ (p.step size offset x.1 x.2).stack := by
  refine step_induction (motive := fun q => id ∈ q.stack) x (fun kind _ => List.mem_cons_of_mem _ isPending) ?_
    fun _ _ => isPending
  intro kind isClosed
  rw [closes] at isClosed
  cases isClosed

end Pending

/-- What is pending, with the regions so far, once `before` is read of a text of `size` bytes. -/
def pendingAfter (size : Nat) (before : List (UInt8 × ByteClass)) : Pending :=
  (Pending.initial size).run size 0 before

variable {bs before after : List (UInt8 × ByteClass)} {x : UInt8 × ByteClass}

theorem isNested_pendingAfter (parts : bs = before ++ after) :
    (pendingAfter bs.length before).IsNested bs.length before.length := by
  have whole : bs.length = before.length + after.length := by rw [parts, List.length_append]
  have run (read : List (UInt8 × ByteClass)) (p : Pending) (offset : Nat) (nested : p.IsNested bs.length offset)
      (fits : offset + read.length ≤ bs.length) :
      (p.run bs.length offset read).IsNested bs.length (offset + read.length) := by
    induction read generalizing p offset with
    | nil => exact nested
    | cons y read ih =>
      rw [List.length_cons] at fits ⊢
      have := ih _ (offset + 1) (nested.step (by omega) y) (by omega)
      rwa [Nat.add_assoc, Nat.add_comm 1] at this
  have := run before _ 0 (Pending.isNested_initial bs.length) (by omega)
  rwa [Nat.zero_add] at this

theorem regions_ofBytes (parts : bs = before ++ after) : (ofBytes bs).regions =
    ((pendingAfter bs.length before).run bs.length before.length after).regions := by
  rw [ofBytes, pendingAfter]
  conv_lhs => rw [parts, Pending.run_append, ← parts, Nat.zero_add]

/-- Around a byte that closes nothing are the regions that are pending there. -/
theorem encloses_ofBytes_iff (parts : bs = before ++ x :: after) (closes : closed? x = none) {id : Nat}
    (bracketed : 0 < id) :
    (ofBytes bs).encloses before.length id = true ↔ id ∈ (pendingAfter bs.length before).stack := by
  have nested := isNested_pendingAfter parts
  have regions := regions_ofBytes parts
  have fits : before.length + (x :: after).length = bs.length := by rw [parts, List.length_append]
  have continues := Pending.continues_run nested fits
  generalize pendingAfter bs.length before = p at *
  constructor
  · intro encloses
    cases here : (ofBytes bs).regions[id]? with
    | none => simp [Brackets.encloses, here] at encloses
    | some s =>
      have around := (encloses_iff here).1 encloses
      rw [regions] at here
      by_contra notPending
      cases there : p.regions[id]? with
      | none =>
        have := continues.new id s (Array.getElem?_eq_none_iff.1 there) here
        omega
      | some r =>
        obtain ⟨s', here', -, -, ended⟩ := continues.kept id r there
        cases here.symm.trans here'
        have := nested.ended id r bracketed notPending there
        have := ended notPending
        omega
  · intro isPending
    obtain ⟨-, r, here, -⟩ := nested.pending id isPending
    have started := (nested.behind id r bracketed here).1
    obtain ⟨s, there, start, -⟩ := continues.kept id r here
    rw [List.length_cons] at fits
    have stepped := nested.step (x := x) (by omega)
    obtain ⟨-, mid, isMid, -⟩ := stepped.pending id (Pending.mem_stack_step closes isPending)
    have fits' : before.length + 1 + after.length = bs.length := by omega
    have behind := Pending.continues_run stepped fits'
    obtain ⟨s', there', -, pending, -⟩ := behind.kept id mid isMid
    have same : p.run bs.length before.length (x :: after) =
      (p.step bs.length before.length x.1 x.2).run bs.length (before.length + 1) after := rfl
    rw [← same, there] at there'
    cases there'
    rw [encloses_iff (by rw [regions]; exact there)]
    have := pending (Pending.mem_stack_step closes isPending)
    omega

/-- The innermost region around a byte that closes nothing is the one that is pending there. -/
theorem innermostAt_ofBytes (parts : bs = before ++ x :: after) (closes : closed? x = none) :
    (ofBytes bs).innermostAt before.length = (pendingAfter bs.length before).stack.headD 0 := by
  have nested := isNested_pendingAfter parts
  rw [(isArenaOf_ofBytes bs).innermostAt_iff]
  constructor
  · cases stacked : (pendingAfter bs.length before).stack with
    | nil => exact .inl rfl
    | cons top stack =>
      have isPending : top ∈ (pendingAfter bs.length before).stack := by rw [stacked]; exact List.mem_cons_self
      exact .inr ((encloses_ofBytes_iff parts closes (nested.pending top isPending).1).2 isPending)
  · intro other less
    rw [Bool.eq_false_iff, ne_eq, encloses_ofBytes_iff parts closes (Nat.zero_lt_of_lt less)]
    exact fun isPending => absurd (nested.le_top isPending) (Nat.not_le.2 less)

end ShaderAnalysis.Brackets
