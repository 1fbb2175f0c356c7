import Mathlib.Data.List.Nodup
import ShaderAnalysis.Proofs.Lexical.Pending

/-!
# The arena of bracket regions

Whatever brackets a text has, its regions form a tree: each lies inside its parent, which stands before it in the
arena, and the children of a region follow one another (`IsTree`). While bytes are read, the regions on the
stack are the ones that still reach to the end of the text, the innermost one first; all others have ended. This
is what carries the induction: a region that ends can only contain regions that have ended, or that end with it.
-/

namespace ShaderAnalysis.Brackets

namespace Pending

variable {size offset : Nat} {p : Pending}

/-! ## Nesting -/

/-- What is known of the regions once the bytes before `offset` are read. -/
structure IsNested (size offset : Nat) (p : Pending) : Prop where
  root : ∃ children, p.regions[0]? = some ⟨0, size, .root, true, none, children⟩
  descending : p.stack.Pairwise (· > ·)
  pending : ∀ id ∈ p.stack, 0 < id ∧ ∃ r, p.regions[id]? = some r ∧ r.stop = size ∧ r.closed = false
  ended : ∀ id r, 0 < id → id ∉ p.stack → p.regions[id]? = some r → r.stop ≤ offset
  behind : IsBehind offset p.regions
  within : ∀ id r, 0 < id → p.regions[id]? = some r → r.stop ≤ size
  parent : ∀ id r, 0 < id → p.regions[id]? = some r → ∃ above outer, r.parent = some above ∧ above < id ∧
    p.regions[above]? = some outer ∧ outer.start ≤ r.start ∧ r.stop ≤ outer.stop

theorem isNested_initial (size : Nat) : (initial size).IsNested size 0 where
  root := ⟨[], rfl⟩
  descending := .nil
  pending := by
    intro id isPending
    cases isPending
  ended := by
    intro id r bracketed _ here
    exact absurd here (by simp [initial, Nat.ne_of_gt bracketed])
  behind := isBehind_initial size
  within := by
    intro id r bracketed here
    exact absurd here (by simp [initial, Nat.ne_of_gt bracketed])
  parent := by
    intro id r bracketed here
    exact absurd here (by simp [initial, Nat.ne_of_gt bracketed])

theorem IsNested.next (nested : p.IsNested size offset) : p.IsNested size (offset + 1) :=
  { nested with
    ended := fun id r bracketed notPending here =>
      Nat.le_succ_of_le (nested.ended id r bracketed notPending here)
    behind := nested.behind.mono (Nat.le_succ offset) }

theorem IsNested.lt_size (nested : p.IsNested size offset) {id : Nat} (isPending : id ∈ p.stack) :
    id < p.regions.size := by
  obtain ⟨-, r, here, -⟩ := nested.pending id isPending
  exact (Array.getElem?_eq_some_iff.1 here).1

theorem IsNested.size_pos (nested : p.IsNested size offset) : 0 < p.regions.size := by
  obtain ⟨children, here⟩ := nested.root
  exact (Array.getElem?_eq_some_iff.1 here).1

/-- What a new region is put into: the innermost pending region, or the root. -/
theorem IsNested.top (nested : p.IsNested size offset) :
    ∃ r, p.regions[p.stack.headD 0]? = some r ∧ r.start ≤ offset ∧ r.stop = size := by
  cases stacked : p.stack with
  | nil =>
    obtain ⟨children, here⟩ := nested.root
    exact ⟨_, here, Nat.zero_le offset, rfl⟩
  | cons top stack =>
    have isPending : top ∈ p.stack := by rw [stacked]; exact List.mem_cons_self
    obtain ⟨bracketed, r, here, stop, -⟩ := nested.pending top isPending
    exact ⟨r, here, Nat.le_of_lt (nested.behind top r bracketed here).1, stop⟩

/-- The pending regions are those at or above the innermost one. -/
theorem IsNested.le_top (nested : p.IsNested size offset) {id : Nat} (isPending : id ∈ p.stack) :
    id ≤ p.stack.headD 0 := by
  have descending := nested.descending
  cases stacked : p.stack with
  | nil => rw [stacked] at isPending; cases isPending
  | cons top stack =>
    rw [stacked] at isPending descending
    rcases List.mem_cons.1 isPending with rfl | deeper
    · exact Nat.le_refl _
    · exact Nat.le_of_lt ((List.pairwise_cons.1 descending).1 id deeper)

theorem IsNested.enter (nested : p.IsNested size offset) (inside : offset < size) (kind : BracketKind) :
    (p.enter size offset kind).IsNested size (offset + 1) where
  root := by
    obtain ⟨children, here⟩ := nested.root
    exact ⟨_, getElem?_enter_of_some here⟩
  descending := List.pairwise_cons.2 ⟨fun id isPending => nested.lt_size isPending, nested.descending⟩
  pending := by
    intro id isPending
    rcases List.mem_cons.1 isPending with rfl | older
    · rw [getElem?_enter, if_pos rfl]
      exact ⟨nested.size_pos, _, rfl, rfl, rfl⟩
    · obtain ⟨bracketed, r, here, stop, isOpen⟩ := nested.pending id older
      exact ⟨bracketed, _, getElem?_enter_of_some here, stop, isOpen⟩
  ended := by
    intro id r bracketed notPending here
    rw [stack_enter, List.mem_cons, not_or] at notPending
    rcases enter_cases here with ⟨isNew, -⟩ | ⟨-, old, isOld, rfl⟩
    · exact absurd isNew notPending.1
    · exact Nat.le_succ_of_le (nested.ended id old bracketed notPending.2 isOld)
  behind := nested.behind.enter inside kind
  within := by
    intro id r bracketed here
    rcases enter_cases here with ⟨-, rfl⟩ | ⟨-, old, isOld, rfl⟩
    · exact Nat.le_refl size
    · exact nested.within id old bracketed isOld
  parent := by
    intro id r bracketed here
    rcases enter_cases here with ⟨rfl, rfl⟩ | ⟨-, old, isOld, rfl⟩
    · obtain ⟨outer, isAbove, start, stop⟩ := nested.top
      have before := (Array.getElem?_eq_some_iff.1 isAbove).1
      exact ⟨_, _, rfl, before, getElem?_enter_of_some isAbove, start, Nat.le_of_eq stop.symm⟩
    · obtain ⟨above, outer, isParent, before, isAbove, bounds⟩ := nested.parent id old bracketed isOld
      exact ⟨above, _, isParent, before, getElem?_enter_of_some isAbove, bounds⟩

/-- How the parts of a descending stack lie around the region that is ended. -/
theorem descending_around {skipped stack : List Nat} {matched : Nat}
    (descending : (skipped ++ matched :: stack).Pairwise (· > ·)) :
    (∀ id ∈ skipped, matched < id) ∧ (∀ id ∈ stack, id < matched) ∧ stack.Pairwise (· > ·) := by
  obtain ⟨-, below, across⟩ := List.pairwise_append.1 descending
  obtain ⟨less, sorted⟩ := List.pairwise_cons.1 below
  exact ⟨fun id isSkipped => across id isSkipped matched List.mem_cons_self, less, sorted⟩

section Ending

variable {skipped stack : List Nat} {matched : Nat} (nested : p.IsNested size offset)
  (stacked : p.stack = skipped ++ matched :: stack)

include nested stacked

/-- Ends only move forward, to where the closer is. -/
theorem IsNested.stop_ended_le (inside : offset < size) {id : Nat} {r : Region} (here : p.regions[id]? = some r) :
    (Pending.ended offset skipped matched id r).stop ≤ r.stop := by
  have pending (isPending : id ∈ p.stack) : r.stop = size := by
    obtain ⟨-, r', here', stop, -⟩ := nested.pending id isPending
    cases here.symm.trans here'
    exact stop
  simp only [Pending.ended]
  split
  · rw [pending (by simp [*])]
    exact inside
  · split
    · rw [pending (by simp [*])]
      exact Nat.le_of_lt inside
    · exact Nat.le_refl _

/-- What is left on the stack is not touched. -/
theorem IsNested.ended_of_mem {id : Nat} (isPending : id ∈ stack) (r : Region) :
    Pending.ended offset skipped matched id r = r := by
  obtain ⟨above, below, -⟩ := descending_around (stacked ▸ nested.descending)
  have less := below id isPending
  exact Pending.ended_of_ne _ _ _ _ (Nat.ne_of_lt less) fun isSkipped => Nat.lt_asymm less (above id isSkipped)

/-- A region whose end is at the closer or before contains no region that reaches further. -/
theorem IsNested.stop_ended_le_parent (inside : offset < size) {id above : Nat} {r outer : Region} (bracketed : 0 < id)
    (here : p.regions[id]? = some r) (before : above < id) (covers : r.stop ≤ outer.stop) :
    (Pending.ended offset skipped matched id r).stop ≤ (Pending.ended offset skipped matched above outer).stop := by
  obtain ⟨deeper, further, -⟩ := descending_around (stacked ▸ nested.descending)
  have shrinks := nested.stop_ended_le stacked inside here
  -- a region inside one that ends has ended before, or ends now
  have early (ends : above = matched ∨ above ∈ skipped) : id ∉ stack := by
    intro isPending
    have := further id isPending
    rcases ends with rfl | isSkipped
    · omega
    · have := deeper above isSkipped
      omega
  have past (notMatched : id ≠ matched) (notSkipped : id ∉ skipped) (notPending : id ∉ stack) : r.stop ≤ offset :=
    nested.ended id r bracketed (by simp [stacked, notMatched, notSkipped, notPending]) here
  by_cases isMatched : above = matched
  · have notMatched : id ≠ matched := by omega
    simp only [Pending.ended, if_pos isMatched, if_neg notMatched]
    split
    · exact Nat.le_succ offset
    · exact Nat.le_succ_of_le (past notMatched ‹_› (early (.inl isMatched)))
  · by_cases isSkipped : above ∈ skipped
    · have notMatched : id ≠ matched := by have := deeper above isSkipped; omega
      simp only [Pending.ended, if_neg isMatched, if_pos isSkipped, if_neg notMatched]
      split
      · exact Nat.le_refl offset
      · exact past notMatched ‹_› (early (.inr isSkipped))
    · have kept : (Pending.ended offset skipped matched above outer).stop = outer.stop := by
        simp only [Pending.ended, if_neg isMatched, if_neg isSkipped]
      rw [kept]
      exact Nat.le_trans shrinks covers

end Ending

theorem IsNested.leave (nested : p.IsNested size offset) (inside : offset < size) (kind : BracketKind) :
    (p.leave offset kind).IsNested size (offset + 1) := by
  rcases leave_cases p offset kind with ⟨same, -⟩ | ⟨skipped, matched, stack, stacked, left, -, -, regions⟩
  · rw [same]
    exact nested.next
  obtain ⟨deeper, further, sorted⟩ := descending_around (stacked ▸ nested.descending)
  have bracketed : 0 < matched := (nested.pending matched (by simp [stacked])).1
  exact
    { root := by
        obtain ⟨children, here⟩ := nested.root
        have notSkipped : 0 ∉ skipped := fun isSkipped => absurd (deeper 0 isSkipped) (Nat.not_lt_zero _)
        rw [regions, here, Option.map_some, ended_of_ne _ _ _ _ (Nat.ne_of_lt bracketed) notSkipped]
        exact ⟨children, rfl⟩
      descending := by
        rw [left]
        exact sorted
      pending := by
        intro id isPending
        rw [left] at isPending
        obtain ⟨positive, r, here, stop, isOpen⟩ := nested.pending id (by simp [stacked, isPending])
        rw [regions, here, Option.map_some, nested.ended_of_mem stacked isPending]
        exact ⟨positive, r, rfl, stop, isOpen⟩
      ended := by
        intro id r positive notPending here
        rw [left] at notPending
        rw [regions] at here
        obtain ⟨old, isOld, rfl⟩ := Option.map_eq_some_iff.1 here
        simp only [Pending.ended]
        split
        · exact Nat.le_refl _
        · split
          · exact Nat.le_succ offset
          · refine Nat.le_succ_of_le (nested.ended id old positive ?_ isOld)
            simp [*]
      behind := nested.behind.leave kind
      within := by
        intro id r positive here
        rw [regions] at here
        obtain ⟨old, isOld, rfl⟩ := Option.map_eq_some_iff.1 here
        exact Nat.le_trans (nested.stop_ended_le stacked inside isOld) (nested.within id old positive isOld)
      parent := by
        intro id r positive here
        rw [regions] at here
        obtain ⟨old, isOld, rfl⟩ := Option.map_eq_some_iff.1 here
        obtain ⟨above, outer, isParent, before, isAbove, start, covers⟩ := nested.parent id old positive isOld
        refine ⟨above, Pending.ended offset skipped matched above outer, isParent, before, ?_, start, ?_⟩
        · rw [regions, isAbove, Option.map_some]
        · exact nested.stop_ended_le_parent stacked inside positive isOld before covers }

theorem IsNested.step (nested : p.IsNested size offset) (inside : offset < size) (x : UInt8 × ByteClass) :
    (p.step size offset x.1 x.2).IsNested size (offset + 1) :=
  step_induction x (fun kind _ => nested.enter inside kind) (fun kind _ => nested.leave inside kind)
    fun _ _ => nested.next

/-! ## Siblings -/

/-- The regions that `id` is the parent of, in the order of the arena. -/
def childrenOf (regions : Array Region) (id : Nat) : List Nat :=
  (List.range regions.size).filter fun child => regions[child]?.bind Region.parent == some id

theorem mem_childrenOf {regions : Array Region} {id child : Nat} :
    child ∈ childrenOf regions id ↔ ∃ r, regions[child]? = some r ∧ r.parent = some id := by
  simp only [childrenOf, List.mem_filter, List.mem_range, beq_iff_eq, Option.bind_eq_some_iff]
  refine and_iff_right_of_imp ?_
  rintro ⟨r, here, -⟩
  exact (Array.getElem?_eq_some_iff.1 here).1

/-- Arenas of one size whose regions have the same parents have the same children. -/
theorem childrenOf_congr {regions regions' : Array Region} (size : regions'.size = regions.size)
    (parents : ∀ child < regions.size, regions'[child]?.bind Region.parent = regions[child]?.bind Region.parent)
    (id : Nat) : childrenOf regions' id = childrenOf regions id := by
  rw [childrenOf, childrenOf, size]
  refine List.filter_congr fun child less => ?_
  rw [parents child (List.mem_range.1 less)]

/-- Regions list their children, and those follow one another. -/
structure HasSiblings (regions : Array Region) : Prop where
  children : ∀ (id : Nat) r, regions[id]? = some r → r.children = childrenOf regions id
  siblings : ∀ (a b : Nat) r s, a < b → regions[a]? = some r → regions[b]? = some s → r.parent = s.parent →
    r.stop ≤ s.start

theorem hasSiblings_initial (size : Nat) : HasSiblings (initial size).regions where
  children := by
    intro id r here
    cases id with
    | zero => cases here; rfl
    | succ id => cases here
  siblings := by
    intro a b r s less _ there
    cases b with
    | zero => exact absurd less (Nat.not_lt_zero a)
    | succ b => cases there

/-- The children of the region that a new one is put into have ended. -/
theorem IsNested.stop_le_of_parent (nested : p.IsNested size offset) {child : Nat} {s : Region}
    (here : p.regions[child]? = some s) (isParent : s.parent = some (p.stack.headD 0)) : s.stop ≤ offset := by
  have bracketed : 0 < child := by
    rw [Nat.pos_iff_ne_zero]
    rintro rfl
    obtain ⟨children, root⟩ := nested.root
    cases root.symm.trans here
    cases isParent
  refine nested.ended child s bracketed (fun isPending => ?_) here
  obtain ⟨above, -, isAbove, before, -⟩ := nested.parent child s bracketed here
  cases isAbove.symm.trans isParent
  exact absurd (nested.le_top isPending) (Nat.not_le.2 before)

theorem IsNested.parent_lt (nested : p.IsNested size offset) {id above : Nat}
    (isParent : p.regions[id]?.bind Region.parent = some above) : above < p.regions.size := by
  obtain ⟨r, here, isAbove⟩ := Option.bind_eq_some_iff.1 isParent
  cases id with
  | zero =>
    obtain ⟨children, root⟩ := nested.root
    cases root.symm.trans here
    cases isAbove
  | succ id =>
    obtain ⟨above', outer, isAbove', -, there, -⟩ := nested.parent _ r (Nat.succ_pos id) here
    cases isAbove'.symm.trans isAbove
    exact (Array.getElem?_eq_some_iff.1 there).1

theorem size_enter (kind : BracketKind) : (p.enter size offset kind).regions.size = p.regions.size + 1 := by
  rw [enter, Array.size_push, Array.size_modify]

theorem childrenOf_enter (kind : BracketKind) (id : Nat) :
    childrenOf (p.enter size offset kind).regions id =
      childrenOf p.regions id ++ if id = p.stack.headD 0 then [p.regions.size] else [] := by
  rw [childrenOf, childrenOf, size_enter, List.range_succ, List.filter_append]
  congr 1
  · refine List.filter_congr fun child less => ?_
    rw [getElem?_enter, if_neg (Nat.ne_of_lt (List.mem_range.1 less)), Option.bind_map]
    rfl
  · rw [List.filter_singleton, getElem?_enter, if_pos rfl]
    by_cases isParent : id = p.stack.headD 0
    · simp [isParent]
    · simp only [Option.bind_some, Option.some_beq_some, if_neg isParent, beq_false_of_ne (Ne.symm isParent)]
      rfl

theorem HasSiblings.enter (ordered : HasSiblings p.regions) (nested : p.IsNested size offset) (kind : BracketKind) :
    HasSiblings (p.enter size offset kind).regions := by
  obtain ⟨outer, isAbove, -⟩ := nested.top
  have above := (Array.getElem?_eq_some_iff.1 isAbove).1
  constructor
  · intro id r here
    rw [childrenOf_enter]
    rcases enter_cases here with ⟨rfl, rfl⟩ | ⟨-, old, isOld, rfl⟩
    · -- nothing has the new region as its parent
      rw [if_neg (by omega), List.append_nil, Eq.comm, List.eq_nil_iff_forall_not_mem]
      intro child isChild
      obtain ⟨s, here, isParent⟩ := mem_childrenOf.1 isChild
      exact absurd (nested.parent_lt (Option.bind_eq_some_iff.2 ⟨s, here, isParent⟩)) (by omega)
    · rw [← ordered.children id old isOld, withChild]
      split
      · rfl
      · rw [List.append_nil]
  · intro a b r s less here there same
    have isOld : a ≠ p.regions.size := by
      have := (Array.getElem?_eq_some_iff.1 there).1
      rw [size_enter] at this
      omega
    rcases enter_cases here with ⟨isNew, -⟩ | ⟨-, old, isFirst, rfl⟩
    · exact absurd isNew isOld
    rcases enter_cases there with ⟨-, rfl⟩ | ⟨-, old', isSecond, rfl⟩
    · have early := nested.stop_le_of_parent isFirst same
      exact early
    · exact ordered.siblings a b old old' less isFirst isSecond same

theorem HasSiblings.leave (ordered : HasSiblings p.regions) (nested : p.IsNested size offset) (inside : offset < size)
    (kind : BracketKind) : HasSiblings (p.leave offset kind).regions := by
  rcases leave_cases p offset kind with ⟨same, -⟩ | ⟨skipped, matched, stack, stacked, -, -, -, regions⟩
  · rw [same]
    exact ordered
  have parents (child : Nat) :
      (p.leave offset kind).regions[child]?.bind Region.parent = p.regions[child]?.bind Region.parent := by
    rw [regions, Option.bind_map]
    rfl
  have sameSize := size_eq_of_map regions
  constructor
  · intro id r here
    rw [regions] at here
    obtain ⟨old, isOld, rfl⟩ := Option.map_eq_some_iff.1 here
    rw [children_ended, ordered.children id old isOld, childrenOf_congr sameSize fun child _ => parents child]
  · intro a b r s less here there same
    rw [regions] at here there
    obtain ⟨old, isFirst, rfl⟩ := Option.map_eq_some_iff.1 here
    obtain ⟨old', isSecond, rfl⟩ := Option.map_eq_some_iff.1 there
    exact Nat.le_trans (nested.stop_ended_le stacked inside isFirst)
      (ordered.siblings a b old old' less isFirst isSecond same)

end Pending

end ShaderAnalysis.Brackets
