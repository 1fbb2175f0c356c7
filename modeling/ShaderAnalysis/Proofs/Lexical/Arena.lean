import ShaderAnalysis.Proofs.Lexical.Regions

/-!
# Regions and the brackets of a text

The regions of a text are those of its openers, in their order, and their ends are where the closers are: a
closed region ends behind a closer of its own kind, which closes no other region, and an open one at the end of
the text or at the closer that closed a region around it (`isArenaOf_ofBytes`).
-/

namespace ShaderAnalysis.Brackets

/-- The openers among the bytes, as offset and kind. -/
def openers (bs : List (UInt8 × ByteClass)) : List (Nat × BracketKind) :=
  bs.zipIdx.filterMap fun x => (opened? x.1).map (x.2, ·)

theorem openers_concat (bs : List (UInt8 × ByteClass)) (x : UInt8 × ByteClass) :
    openers (bs ++ [x]) = openers bs ++ ((opened? x).map (bs.length, ·)).toList := by
  rw [openers, List.zipIdx_append, List.filterMap_append]
  congr 1
  cases opens : opened? x <;> simp [opens]

theorem mem_openers {bs : List (UInt8 × ByteClass)} {offset : Nat} {kind : BracketKind} :
    (offset, kind) ∈ openers bs ↔ bs[offset]?.bind opened? = some kind := by
  simp only [openers, List.mem_filterMap, Option.map_eq_some_iff, Prod.mk.injEq, Option.bind_eq_some_iff]
  constructor
  · rintro ⟨⟨x, i⟩, member, k, opens, rfl, rfl⟩
    exact ⟨x, List.mem_zipIdx_iff_getElem?.1 member, opens⟩
  · rintro ⟨x, here, opens⟩
    exact ⟨(x, offset), List.mem_zipIdx_iff_getElem?.2 here, kind, opens, rfl, rfl⟩

theorem pairwise_openers (bs : List (UInt8 × ByteClass)) : (openers bs).Pairwise fun a b => a.1 < b.1 := by
  rw [openers, List.pairwise_filterMap]
  have ascending : bs.zipIdx.Pairwise fun x y => x.2 < y.2 := by
    rw [← List.pairwise_map, List.zipIdx_map_snd]
    exact List.pairwise_lt_range'
  refine ascending.imp fun {x y} less a isFirst b isSecond => ?_
  obtain ⟨k, -, rfl⟩ := Option.map_eq_some_iff.1 isFirst
  obtain ⟨k', -, rfl⟩ := Option.map_eq_some_iff.1 isSecond
  exact less

namespace Pending

variable {size offset : Nat} {p : Pending} {read : List (UInt8 × ByteClass)}

/-- The regions are those of the bytes that were read. -/
structure IsOf (read : List (UInt8 × ByteClass)) (p : Pending) : Prop where
  openers : ∀ id, p.regions[id + 1]?.map (fun r => (r.start, r.kind)) = (openers read)[id]?
  closers : ∀ id r, 0 < id → p.regions[id]? = some r → r.closed = true →
    read[r.stop - 1]?.bind closed? = some r.kind
  sealed : ∀ id r, 0 < id → id ∉ p.stack → p.regions[id]? = some r → r.closed = false →
    ∃ around outer, 0 < around ∧ around < id ∧ p.regions[around]? = some outer ∧ outer.closed = true ∧
      outer.kind ≠ r.kind ∧ outer.stop = r.stop + 1
  single : ∀ id other r s, 0 < id → 0 < other → p.regions[id]? = some r → p.regions[other]? = some s →
    r.closed = true → s.closed = true → r.stop = s.stop → id = other

theorem isOf_initial (size : Nat) : (initial size).IsOf [] where
  openers := fun _ => rfl
  closers := by
    intro id r bracketed here
    exact absurd here (by simp [initial, Nat.ne_of_gt bracketed])
  sealed := by
    intro id r bracketed _ here
    exact absurd here (by simp [initial, Nat.ne_of_gt bracketed])
  single := by
    intro id other r s bracketed _ here
    exact absurd here (by simp [initial, Nat.ne_of_gt bracketed])

/-- What holds of a byte that was read still holds when more bytes are. -/
theorem bind_getElem?_concat {α : Type} {f : UInt8 × ByteClass → Option α} {a : α} {i : Nat}
    (h : read[i]?.bind f = some a) (x : UInt8 × ByteClass) : (read ++ [x])[i]?.bind f = some a := by
  obtain ⟨y, here, is⟩ := Option.bind_eq_some_iff.1 h
  rw [List.getElem?_append_left (List.getElem?_eq_some_iff.1 here).1, here]
  exact is

theorem IsOf.skip (faithful : p.IsOf read) {x : UInt8 × ByteClass} (opens : opened? x = none) :
    p.IsOf (read ++ [x]) :=
  { faithful with
    openers := by
      rw [openers_concat, opens, Option.map_none, Option.toList_none, List.append_nil]
      exact faithful.openers
    closers := fun id r bracketed here isClosed =>
      bind_getElem?_concat (faithful.closers id r bracketed here isClosed) x }

theorem IsOf.size_eq (faithful : p.IsOf read) (nested : p.IsNested size offset) :
    p.regions.size = (Brackets.openers read).length + 1 := by
  have limits (id : Nat) : p.regions.size ≤ id + 1 ↔ (Brackets.openers read).length ≤ id := by
    rw [← Array.getElem?_eq_none_iff, ← List.getElem?_eq_none_iff, ← faithful.openers, Option.map_eq_none_iff]
  have upper := (limits _).2 (Nat.le_refl _)
  have lower := (limits (p.regions.size - 1)).1 (by omega)
  have := nested.size_pos
  omega

theorem IsOf.enter (faithful : p.IsOf read) (nested : p.IsNested size read.length) {x : UInt8 × ByteClass}
    {kind : BracketKind} (opens : opened? x = some kind) :
    (p.enter size read.length kind).IsOf (read ++ [x]) where
  openers := by
    intro id
    have sameSize := faithful.size_eq nested
    rw [getElem?_enter, openers_concat, opens]
    split
    · have isLast : id = (Brackets.openers read).length := by omega
      rw [isLast, List.getElem?_append_right (Nat.le_refl _), Nat.sub_self]
      rfl
    · rw [Option.map_map]
      refine (faithful.openers id).trans ?_
      rw [List.getElem?_append]
      split
      · rfl
      · rw [List.getElem?_eq_none (by omega), List.getElem?_eq_none (by simp; omega)]
  closers := by
    intro id r bracketed here isClosed
    rcases enter_cases here with ⟨-, rfl⟩ | ⟨-, old, isOld, rfl⟩
    · cases isClosed
    · exact bind_getElem?_concat (faithful.closers id old bracketed isOld isClosed) x
  sealed := by
    intro id r bracketed notPending here isOpen
    rw [stack_enter, List.mem_cons, not_or] at notPending
    rcases enter_cases here with ⟨isNew, -⟩ | ⟨-, old, isOld, rfl⟩
    · exact absurd isNew notPending.1
    obtain ⟨around, outer, positive, before, isAround, ends⟩ :=
      faithful.sealed id old bracketed notPending.2 isOld isOpen
    exact ⟨around, _, positive, before, getElem?_enter_of_some isAround, ends⟩
  single := by
    intro id other r s bracketed bracketed' here there isClosed isClosed' same
    rcases enter_cases here with ⟨-, rfl⟩ | ⟨-, old, isOld, rfl⟩
    · cases isClosed
    · rcases enter_cases there with ⟨-, rfl⟩ | ⟨-, old', isOld', rfl⟩
      · cases isClosed'
      · exact faithful.single id other old old' bracketed bracketed' isOld isOld' isClosed isClosed' same

/-- A closed region has ended. -/
theorem IsNested.stop_le_of_closed (nested : p.IsNested size offset) {id : Nat} {r : Region} (bracketed : 0 < id)
    (here : p.regions[id]? = some r) (isClosed : r.closed = true) : id ∉ p.stack ∧ r.stop ≤ offset := by
  have notPending : id ∉ p.stack := by
    intro isPending
    obtain ⟨-, r', here', -, isOpen⟩ := nested.pending id isPending
    cases here.symm.trans here'
    rw [isClosed] at isOpen
    cases isOpen
  exact ⟨notPending, nested.ended id r bracketed notPending here⟩

section Leaving

variable {kind : BracketKind} {skipped stack : List Nat} {matched : Nat}
  (stacked : p.stack = skipped ++ matched :: stack)

include stacked

/-- A closer leaves what is not pending as it is. -/
theorem ended_of_not_mem {id : Nat} (notPending : id ∉ p.stack) (r : Region) :
    Pending.ended offset skipped matched id r = r := by
  simp only [stacked, List.mem_append, List.mem_cons, not_or] at notPending
  exact ended_of_ne _ _ _ _ notPending.2.1 notPending.1

/-- What is closed behind a closer is the region that it ends, or was closed before. -/
theorem IsNested.closed_ended_cases (nested : p.IsNested size offset) {id : Nat} {r : Region} (bracketed : 0 < id)
    (here : p.regions[id]? = some r) (isClosed : (Pending.ended offset skipped matched id r).closed = true) :
    id = matched ∨ r.closed = true ∧ r.stop ≤ offset ∧ Pending.ended offset skipped matched id r = r := by
  by_cases isMatched : id = matched
  · exact .inl isMatched
  · have wasClosed : r.closed = true := by
      simp only [Pending.ended, isMatched, decide_false, Bool.false_or, Bool.and_eq_true] at isClosed
      exact isClosed.1
    obtain ⟨notPending, early⟩ := nested.stop_le_of_closed bracketed here wasClosed
    exact .inr ⟨wasClosed, early, ended_of_not_mem stacked notPending r⟩

variable (faithful : p.IsOf read) (nested : p.IsNested size read.length)

include faithful nested

/-- A region that a closer leaves open is inside the one that it ends, or was sealed before. -/
theorem IsOf.sealed_ended {around : Region} (here : p.regions[matched]? = some around) (isKind : around.kind = kind)
    (others : ∀ id ∈ skipped, ∀ r, p.regions[id]? = some r → r.kind ≠ kind) {id : Nat} {r : Region}
    (bracketed : 0 < id) (notPending : id ∉ stack) (isOld : p.regions[id]? = some r)
    (isOpen : (Pending.ended read.length skipped matched id r).closed = false) :
    ∃ above outer, 0 < above ∧ above < id ∧ p.regions[above]? = some outer ∧
      (Pending.ended read.length skipped matched above outer).closed = true ∧ outer.kind ≠ r.kind ∧
      (Pending.ended read.length skipped matched above outer).stop =
        (Pending.ended read.length skipped matched id r).stop + 1 := by
  obtain ⟨deeper, -, -⟩ := descending_around (stacked ▸ nested.descending)
  have notMatched : id ≠ matched := by
    rintro rfl
    rw [ended_self] at isOpen
    cases isOpen
  by_cases isSkipped : id ∈ skipped
  · have positive : 0 < matched := (nested.pending matched (by simp [stacked])).1
    refine ⟨matched, around, positive, deeper id isSkipped, here, ?_, ?_, ?_⟩
    · rw [ended_self]
    · exact isKind ▸ (others id isSkipped r isOld).symm
    · rw [ended_self, ended_of_mem _ _ _ _ notMatched isSkipped]
  · have wasEnded : id ∉ p.stack := by simp [stacked, notMatched, isSkipped, notPending]
    rw [ended_of_not_mem stacked wasEnded] at isOpen ⊢
    obtain ⟨above, outer, bracketed', before, isAbove, isClosed, differs, ends⟩ :=
      faithful.sealed id r bracketed wasEnded isOld isOpen
    have kept : Pending.ended read.length skipped matched above outer = outer :=
      ended_of_not_mem stacked (nested.stop_le_of_closed bracketed' isAbove isClosed).1 outer
    exact ⟨above, outer, bracketed', before, isAbove, by rw [kept, isClosed], differs, by rw [kept, ends]⟩

/-- A closer ends one region, and no closed region has ended as far behind. -/
theorem IsOf.single_ended {id other : Nat} {r s : Region} (bracketed : 0 < id) (bracketed' : 0 < other)
    (here : p.regions[id]? = some r) (there : p.regions[other]? = some s)
    (isClosed : (Pending.ended read.length skipped matched id r).closed = true)
    (isClosed' : (Pending.ended read.length skipped matched other s).closed = true)
    (same : (Pending.ended read.length skipped matched id r).stop =
      (Pending.ended read.length skipped matched other s).stop) : id = other := by
  have last (r : Region) : (Pending.ended read.length skipped matched matched r).stop = read.length + 1 := by
    rw [ended_self]
  rcases nested.closed_ended_cases stacked bracketed here isClosed with rfl | ⟨wasClosed, early, kept⟩ <;>
    rcases nested.closed_ended_cases stacked bracketed' there isClosed' with rfl | ⟨wasClosed', early', kept'⟩
  · rfl
  · rw [last, kept'] at same
    omega
  · rw [last, kept] at same
    omega
  · rw [kept, kept'] at same
    exact faithful.single id other r s bracketed bracketed' here there wasClosed wasClosed' same

end Leaving

theorem IsOf.leave (faithful : p.IsOf read) (nested : p.IsNested size read.length) {x : UInt8 × ByteClass}
    {kind : BracketKind} (closes : closed? x = some kind) :
    (p.leave read.length kind).IsOf (read ++ [x]) := by
  have skips := faithful.skip (opened?_of_closed? closes)
  rcases leave_cases p read.length kind with
    ⟨same, -⟩ | ⟨skipped, matched, stack, stacked, left, ⟨around, here, isKind⟩, others, regions⟩
  · rw [same]
    exact skips
  have old {id : Nat} {r : Region} (here : (p.leave read.length kind).regions[id]? = some r) :
      ∃ old, p.regions[id]? = some old ∧ Pending.ended read.length skipped matched id old = r :=
    Option.map_eq_some_iff.1 ((regions id).symm.trans here)
  constructor
  case openers =>
    intro id
    rw [regions, Option.map_map]
    exact skips.openers id
  case closers =>
    intro id r bracketed here' isClosed
    obtain ⟨r, isOld, rfl⟩ := old here'
    rcases nested.closed_ended_cases stacked bracketed isOld isClosed with rfl | ⟨wasClosed, -, same⟩
    · cases here.symm.trans isOld
      rw [ended_self, Nat.add_sub_cancel, List.getElem?_concat_length, Option.bind_some, closes, isKind]
    · rw [same]
      exact skips.closers id r bracketed isOld wasClosed
  case sealed =>
    intro id r bracketed notPending here' isOpen
    obtain ⟨r, isOld, rfl⟩ := old here'
    rw [left] at notPending
    obtain ⟨above, outer, bracketed', before, isAbove, ends⟩ :=
      faithful.sealed_ended stacked nested here isKind others bracketed notPending isOld isOpen
    exact ⟨above, _, bracketed', before, by rw [regions, isAbove, Option.map_some], ends⟩
  case single =>
    intro id other r s bracketed bracketed' here' there isClosed isClosed' same
    obtain ⟨r, isOld, rfl⟩ := old here'
    obtain ⟨s, isOld', rfl⟩ := old there
    exact faithful.single_ended stacked nested bracketed bracketed' isOld isOld' isClosed isClosed' same

/-! ## Runs -/

/-- All that is known of the regions once `read` is read of a text of `size` bytes. -/
structure IsArena (size : Nat) (read : List (UInt8 × ByteClass)) (p : Pending) : Prop where
  nested : p.IsNested size read.length
  ordered : HasSiblings p.regions
  faithful : p.IsOf read

theorem isArena_initial (size : Nat) : (initial size).IsArena size [] :=
  ⟨isNested_initial size, hasSiblings_initial size, isOf_initial size⟩

theorem IsArena.step (arena : p.IsArena size read) (inside : read.length < size) (x : UInt8 × ByteClass) :
    (p.step size read.length x.1 x.2).IsArena size (read ++ [x]) where
  nested := by
    rw [List.length_append]
    exact arena.nested.step inside x
  ordered := step_induction (motive := fun q => HasSiblings q.regions) x
    (fun kind _ => arena.ordered.enter arena.nested kind) (fun kind _ => arena.ordered.leave arena.nested inside kind)
    fun _ _ => arena.ordered
  faithful := step_induction x (fun _ opens => arena.faithful.enter arena.nested opens)
    (fun _ closes => arena.faithful.leave arena.nested closes) fun opens _ => arena.faithful.skip opens

theorem IsArena.run {bs : List (UInt8 × ByteClass)} (arena : p.IsArena size read)
    (fits : read.length + bs.length = size) : (p.run size read.length bs).IsArena size (read ++ bs) := by
  induction bs generalizing read p with
  | nil => rwa [List.append_nil]
  | cons x bs ih =>
    rw [List.length_cons] at fits
    have stepped := arena.step (by omega) x
    have rest := ih stepped (by rw [List.length_append, List.length_singleton]; omega)
    rwa [List.append_assoc, List.length_append] at rest

end Pending

/-! ## The regions of a text -/

/-- The regions are those of the openers in `bs`; they are nested, siblings follow one another, and their ends are
what the closers make of them. -/
structure IsArenaOf (bs : List (UInt8 × ByteClass)) (t : Brackets) : Prop where
  root : ∃ children, t.regions[0]? = some ⟨0, bs.length, .root, true, none, children⟩
  ascending : ∀ id other r s, 0 < id → id < other → t.regions[id]? = some r → t.regions[other]? = some s →
    r.start < s.start
  opener : ∀ id r, 0 < id → t.regions[id]? = some r → bs[r.start]?.bind opened? = some r.kind
  opened : ∀ offset kind, bs[offset]?.bind opened? = some kind →
    ∃ id r, 0 < id ∧ t.regions[id]? = some r ∧ r.start = offset ∧ r.kind = kind
  bounds : ∀ id r, 0 < id → t.regions[id]? = some r → r.start < r.stop ∧ r.stop ≤ bs.length
  parent : ∀ id r, 0 < id → t.regions[id]? = some r → ∃ above outer, r.parent = some above ∧ above < id ∧
    t.regions[above]? = some outer ∧ outer.start ≤ r.start ∧ r.stop ≤ outer.stop
  children : ∀ (id : Nat) r child, t.regions[id]? = some r →
    (child ∈ r.children ↔ ∃ s, t.regions[child]? = some s ∧ s.parent = some id)
  siblings : ∀ (id : Nat) r, t.regions[id]? = some r → r.children.Pairwise fun a b =>
    ∀ s s', t.regions[a]? = some s → t.regions[b]? = some s' → s.stop ≤ s'.start
  closer : ∀ id r, 0 < id → t.regions[id]? = some r → r.closed = true → bs[r.stop - 1]?.bind closed? = some r.kind
  sealed : ∀ id r, 0 < id → t.regions[id]? = some r → r.closed = false → r.stop = bs.length ∨
    ∃ around outer, 0 < around ∧ around < id ∧ t.regions[around]? = some outer ∧ outer.closed = true ∧
      outer.kind ≠ r.kind ∧ outer.stop = r.stop + 1 ∧ bs[r.stop]?.bind closed? = some outer.kind
  single : ∀ id other r s, 0 < id → 0 < other → t.regions[id]? = some r → t.regions[other]? = some s →
    r.closed = true → s.closed = true → r.stop = s.stop → id = other

theorem isArenaOf_ofBytes (bs : List (UInt8 × ByteClass)) : (ofBytes bs).IsArenaOf bs := by
  have arena : ((Pending.initial bs.length).run bs.length 0 bs).IsArena bs.length bs :=
    (Pending.isArena_initial bs.length).run (Nat.zero_add _)
  have regions : (ofBytes bs).regions = ((Pending.initial bs.length).run bs.length 0 bs).regions := rfl
  obtain ⟨nested, ordered, faithful⟩ := arena
  generalize (Pending.initial bs.length).run bs.length 0 bs = p at *
  have isOpener {id : Nat} {r : Region} (bracketed : 0 < id) (here : p.regions[id]? = some r) :
      (openers bs)[id - 1]? = some (r.start, r.kind) := by
    rw [← faithful.openers, Nat.sub_add_cancel bracketed, here, Option.map_some]
  constructor <;> rw [regions]
  case root => exact nested.root
  case ascending =>
    intro id other r s bracketed less here there
    obtain ⟨low, first⟩ := List.getElem?_eq_some_iff.1 (isOpener bracketed here)
    obtain ⟨high, second⟩ := List.getElem?_eq_some_iff.1 (isOpener (Nat.lt_trans bracketed less) there)
    have before := List.pairwise_iff_getElem.1 (pairwise_openers bs) (id - 1) (other - 1) low high (by omega)
    rwa [first, second] at before
  case opener =>
    intro id r bracketed here
    exact mem_openers.1 (List.mem_of_getElem? (isOpener bracketed here))
  case opened =>
    intro offset kind opens
    obtain ⟨id, here⟩ := List.mem_iff_getElem?.1 (mem_openers.2 opens)
    rw [← faithful.openers] at here
    obtain ⟨r, isRegion, same⟩ := Option.map_eq_some_iff.1 here
    cases same
    exact ⟨id + 1, r, Nat.succ_pos id, isRegion, rfl, rfl⟩
  case bounds =>
    intro id r bracketed here
    exact ⟨(nested.behind id r bracketed here).2, nested.within id r bracketed here⟩
  case parent => exact nested.parent
  case children =>
    intro id r child here
    rw [ordered.children id r here]
    exact Pending.mem_childrenOf
  case siblings =>
    intro id r here
    rw [ordered.children id r here]
    have ascending : (Pending.childrenOf p.regions id).Pairwise (· < ·) := List.pairwise_lt_range.filter _
    refine ascending.imp_of_mem fun {a b} isChild isChild' less s s' here there => ?_
    obtain ⟨first, isFirst, isParent⟩ := Pending.mem_childrenOf.1 isChild
    obtain ⟨second, isSecond, isParent'⟩ := Pending.mem_childrenOf.1 isChild'
    cases here.symm.trans isFirst
    cases there.symm.trans isSecond
    exact ordered.siblings a b s s' less here there (isParent.trans isParent'.symm)
  case closer => exact faithful.closers
  case sealed =>
    intro id r bracketed here isOpen
    by_cases isPending : id ∈ p.stack
    · obtain ⟨-, r', here', stop, -⟩ := nested.pending id isPending
      cases here.symm.trans here'
      exact .inl stop
    · obtain ⟨around, outer, positive, before, isAround, isClosed, differs, ends⟩ :=
        faithful.sealed id r bracketed isPending here isOpen
      have closes := faithful.closers around outer positive isAround isClosed
      rw [ends, Nat.add_sub_cancel] at closes
      exact .inr ⟨around, outer, positive, before, isAround, isClosed, differs, ends, closes⟩
  case single => exact faithful.single

end ShaderAnalysis.Brackets
