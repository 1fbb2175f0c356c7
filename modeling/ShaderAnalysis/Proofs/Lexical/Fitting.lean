import ShaderAnalysis.Proofs.Lexical.Innermost

/-!
# Brackets that fit

Where every closer fits the innermost pending opener, what has been read falls into levels, one for each pending
opener, with well nested brackets on each (`AreLevels.exists_read`). The last region that is still open at the end
of such a text starts at the last of these openers, and all behind it is well nested
(`exists_level_of_closersFit`). What lies directly in that region can then be counted along the text
(`countIn_eq`).
-/

namespace ShaderAnalysis.Brackets

/-- Whether every closer is of the kind of the innermost pending opener, unless nothing is pending. -/
def closersFit : List BracketKind → List (UInt8 × ByteClass) → Bool
  | _, [] => true
  | pending, x :: rest =>
    match opened? x, closed? x, pending with
    | some kind, _, _ => closersFit (kind :: pending) rest
    | none, some kind, inner :: outer => kind == inner && closersFit outer rest
    | none, _, _ => closersFit pending rest

variable {pending : List BracketKind} {bs read w : List (UInt8 × ByteClass)}

/-! ## Levels -/

theorem WellNested.append {v : List (UInt8 × ByteClass)} (first : WellNested v) (second : WellNested w) :
    WellNested (v ++ w) := by
  induction first with
  | nil => exact second
  | plain opens closes _ ih => exact .plain opens closes ih
  | pair opens between closes _ _ ih =>
    rw [List.cons_append, List.append_assoc, List.cons_append]
    exact .pair opens between closes ih

/-- An opener, well nested brackets and a closer of its kind. -/
theorem WellNested.block {opener closer : UInt8 × ByteClass} {kind : BracketKind} (opens : opened? opener = some kind)
    (nested : WellNested w) (closes : closed? closer = some kind) : WellNested (opener :: (w ++ [closer])) :=
  .pair opens nested closes .nil

/-- What is read with these openers pending, the innermost one first: behind each of them brackets are well
nested, and a closer may stand alone where nothing is pending. -/
inductive AreLevels : List BracketKind → List (UInt8 × ByteClass) → Prop where
  | nil : AreLevels [] []
  | stray {read : List (UInt8 × ByteClass)} {x : UInt8 × ByteClass} {kind : BracketKind} (levels : AreLevels [] read)
      (closes : closed? x = some kind) : AreLevels [] (read ++ [x])
  | inside {pending : List BracketKind} {read w : List (UInt8 × ByteClass)} (levels : AreLevels pending read)
      (nested : WellNested w) : AreLevels pending (read ++ w)
  | opener {pending : List BracketKind} {read : List (UInt8 × ByteClass)} {x : UInt8 × ByteClass} {kind : BracketKind}
      (levels : AreLevels pending read) (opens : opened? x = some kind) : AreLevels (kind :: pending) (read ++ [x])

/-- The innermost level. -/
theorem AreLevels.exists_level {kind : BracketKind} (levels : AreLevels (kind :: pending) read) :
    ∃ front opener w, read = front ++ opener :: w ∧ AreLevels pending front ∧ opened? opener = some kind ∧
      WellNested w := by
  generalize all : kind :: pending = stack at levels
  induction levels with
  | nil => cases all
  | stray => cases all
  | inside _ nested ih =>
    obtain ⟨front, opener, w, rfl, outer, opens, nested'⟩ := ih all
    exact ⟨front, opener, _, by rw [List.append_assoc, List.cons_append], outer, opens, nested'.append nested⟩
  | opener levels opens =>
    cases all
    exact ⟨_, _, [], rfl, levels, opens, .nil⟩

/-- Bytes whose closers fit are read into levels. -/
theorem AreLevels.exists_read (levels : AreLevels pending read) (fit : closersFit pending bs = true) :
    ∃ pending', AreLevels pending' (read ++ bs) := by
  induction bs generalizing pending read with
  | nil => exact ⟨pending, by rwa [List.append_nil]⟩
  | cons x bs ih =>
    rw [List.append_cons]
    cases opens : opened? x with
    | some kind =>
      simp only [closersFit, opens] at fit
      exact ih (levels.opener opens) fit
    | none =>
      cases closes : closed? x with
      | none =>
        simp only [closersFit, opens, closes] at fit
        exact ih (levels.inside (.plain opens closes .nil)) fit
      | some kind =>
        cases pending with
        | nil =>
          simp only [closersFit, opens, closes] at fit
          exact ih (levels.stray closes) fit
        | cons inner outer =>
          simp only [closersFit, opens, closes, Bool.and_eq_true, beq_iff_eq] at fit
          obtain ⟨rfl, fit⟩ := fit
          obtain ⟨front, opener, w, rfl, levels', opens', nested⟩ := levels.exists_level
          have closed := levels'.inside (WellNested.block opens' nested closes)
          rw [← List.cons_append, ← List.append_assoc] at closed
          exact ih closed fit

/-! ## Levels and regions -/

theorem pendingAfter_append (size : Nat) (read w : List (UInt8 × ByteClass)) :
    pendingAfter size (read ++ w) = (pendingAfter size read).run size read.length w := by
  rw [pendingAfter, Pending.run_append, Nat.zero_add]
  rfl

theorem pendingAfter_opener {x : UInt8 × ByteClass} {kind : BracketKind} (opens : opened? x = some kind) (size : Nat)
    (read : List (UInt8 × ByteClass)) :
    pendingAfter size (read ++ [x]) = (pendingAfter size read).enter size read.length kind := by
  rw [pendingAfter_append, Pending.run, Pending.step_of_opened? opens]
  rfl

/-- Reading well nested brackets, wherever they stand, leaves the stack as it was. -/
theorem WellNested.stack_run (nested : WellNested w) (size offset : Nat) (p : Pending) :
    (p.run size offset w).stack = p.stack ∧ p.regions.size ≤ (p.run size offset w).regions.size := by
  have completes := nested.completes (List.replicate offset default) [] size p
  rw [List.length_replicate] at completes
  exact ⟨completes.stack, completes.grows⟩

/-- There is a pending region for each level, and all others are closed. -/
theorem AreLevels.pendingAfter (levels : AreLevels pending read) (size : Nat) :
    (pendingAfter size read).stack.length = pending.length ∧ ∀ id r, 0 < id → id ∉ (pendingAfter size read).stack →
      (pendingAfter size read).regions[id]? = some r → r.closed = true := by
  induction levels with
  | nil => exact ⟨rfl, fun id r bracketed _ here => absurd here (by
      simp [Brackets.pendingAfter, Pending.run, Pending.initial, Nat.ne_of_gt bracketed])⟩
  | @stray read x kind levels closes ih =>
    have empty := List.length_eq_zero_iff.1 ih.1
    have same : Brackets.pendingAfter size (read ++ [x]) = Brackets.pendingAfter size read := by
      rw [pendingAfter_append, Pending.run, Pending.step_of_closed? closes]
      rcases Pending.leave_cases (Brackets.pendingAfter size read) read.length kind with
        ⟨same, -⟩ | ⟨skipped, matched, stack, stacked, -⟩
      · exact same
      · simp [empty] at stacked
    rwa [same]
  | @inside pending read w levels nested ih =>
    have completes := nested.completes read [] size (Brackets.pendingAfter size read)
    rw [← pendingAfter_append] at completes
    refine ⟨by rw [completes.stack, ih.1], fun id r bracketed notPending here => ?_⟩
    rw [completes.stack] at notPending
    rcases Nat.lt_or_ge id (Brackets.pendingAfter size read).regions.size with old | isNew
    · have same := completes.kept id old
      rw [here, Option.map_some, Array.getElem?_eq_getElem old, Option.map_some] at same
      simp only [Pending.outline, Option.some.injEq, Prod.mk.injEq] at same
      rw [same.2.2.2]
      exact ih.2 id _ bracketed notPending (Array.getElem?_eq_getElem old)
    · exact (completes.new id r isNew here).1
  | @opener pending read x kind levels opens ih =>
    rw [pendingAfter_opener opens]
    refine ⟨by rw [Pending.stack_enter, List.length_cons, ih.1, List.length_cons], ?_⟩
    intro id r bracketed notPending here
    rw [Pending.stack_enter, List.mem_cons, not_or] at notPending
    rcases Pending.enter_cases here with ⟨isNew, -⟩ | ⟨-, old, isOld, rfl⟩
    · exact absurd isNew notPending.1
    · exact ih.2 id old bracketed notPending.2 isOld

/-- The last region of the arena that is not closed. -/
structure IsInnermostOpen (t : Brackets) (id : Nat) (r : Region) : Prop where
  bracketed : 0 < id
  here : t.regions[id]? = some r
  isOpen : r.closed = false
  last : ∀ other s, id < other → t.regions[other]? = some s → s.closed = true

/-- Behind the opener of the innermost open region, brackets are well nested, and that region is on top of the
stack. -/
theorem exists_level_of_closersFit {id : Nat} {r : Region} (fit : closersFit [] bs = true)
    (innermost : (ofBytes bs).IsInnermostOpen id r) :
    ∃ front opener w, bs = front ++ opener :: w ∧ front.length = r.start ∧ opened? opener = some r.kind ∧
      WellNested w ∧ id < (Brackets.pendingAfter bs.length (front ++ [opener])).regions.size ∧
      (Brackets.pendingAfter bs.length (front ++ [opener])).stack.headD 0 = id := by
  obtain ⟨pending, levels⟩ := AreLevels.nil.exists_read fit
  rw [List.nil_append] at levels
  obtain ⟨sameLength, closed⟩ := levels.pendingAfter bs.length
  have nested : (Brackets.pendingAfter bs.length bs).IsNested bs.length bs.length :=
    isNested_pendingAfter (List.append_nil bs).symm
  have here : (Brackets.pendingAfter bs.length bs).regions[id]? = some r := innermost.here
  have isPending : id ∈ (Brackets.pendingAfter bs.length bs).stack := by
    by_contra notPending
    have := closed id r innermost.bracketed notPending here
    rw [innermost.isOpen] at this
    cases this
  cases pending with
  | nil =>
    rw [List.length_eq_zero_iff.1 sameLength] at isPending
    cases isPending
  | cons kind pending =>
    obtain ⟨front, opener, w, parts, -, opens, inside⟩ := levels.exists_level
    have completes := inside.completes (front ++ [opener]) [] bs.length
      (Brackets.pendingAfter bs.length (front ++ [opener]))
    rw [← pendingAfter_append, List.append_nil, List.append_assoc, List.singleton_append, ← parts] at completes
    have entered := pendingAfter_opener opens bs.length front
    generalize Brackets.pendingAfter bs.length front = before at entered
    have top : (Brackets.pendingAfter bs.length bs).stack.headD 0 = before.regions.size := by
      rw [completes.stack, entered]
      rfl
    -- the top of the stack is open, so it is not behind the innermost open region
    have isTop : id = before.regions.size := by
      refine Nat.le_antisymm (top ▸ nested.le_top isPending) (Nat.not_lt.1 fun less => ?_)
      have onStack : before.regions.size ∈ (Brackets.pendingAfter bs.length bs).stack := by
        rw [completes.stack, entered]
        exact List.mem_cons_self
      obtain ⟨-, s, there, -, isOpen⟩ := nested.pending _ onStack
      rw [innermost.last _ s less there] at isOpen
      cases isOpen
    have outlined := completes.kept id (by rw [isTop, entered, Pending.size_enter]; exact Nat.lt_succ_self _)
    rw [here, entered, isTop, Pending.getElem?_enter, if_pos rfl] at outlined
    simp only [Option.map_some, Pending.outline, Option.some.injEq, Prod.mk.injEq] at outlined
    refine ⟨front, opener, w, parts, outlined.1.symm, by rw [opens, outlined.2.2.1], inside, ?_, ?_⟩
    · rw [isTop, entered, Pending.size_enter]
      exact Nat.lt_succ_self _
    · rw [isTop, entered]
      rfl

/-! ## What lies directly in a region -/

/-- How many of the bytes that are marks have `id` as their innermost region. -/
def countIn (t : Brackets) (bs : List (UInt8 × ByteClass)) (id : Nat) (isMark : UInt8 × ByteClass → Bool) : Nat :=
  bs.zipIdx.countP fun y => isMark y.1 && t.innermostAt y.2 == id

theorem countIn_eq_zero_iff {t : Brackets} {id : Nat} {isMark : UInt8 × ByteClass → Bool} :
    t.countIn bs id isMark = 0 ↔ ∀ i x, bs[i]? = some x → isMark x = true → t.innermostAt i ≠ id := by
  rw [countIn, List.countP_eq_zero]
  simp only [Bool.and_eq_true, beq_iff_eq, not_and]
  exact ⟨fun none i x here => none (x, i) (List.mem_zipIdx_iff_getElem?.2 here),
    fun none y member => none y.2 y.1 (List.mem_zipIdx_iff_getElem?.1 member)⟩

/-- Marks of one kind and of another are counted one by one. -/
theorem countIn_add {t : Brackets} {id : Nat} {isMark first second : UInt8 × ByteClass → Bool}
    (parts : ∀ x, isMark x = (first x || second x)) (apart : ∀ x, first x = true → second x = false) :
    t.countIn bs id isMark = t.countIn bs id first + t.countIn bs id second := by
  rw [countIn, countIn, countIn]
  induction bs.zipIdx with
  | nil => rfl
  | cons y ys ih =>
    rw [List.countP_cons, List.countP_cons, List.countP_cons, ih, parts]
    cases isFirst : first y.1 with
    | true =>
      rw [apart y.1 isFirst]
      simp only [Bool.or_false, Bool.true_and, Bool.false_and, Bool.false_eq_true, if_false]
      omega
    | false => simp only [Bool.false_or, Bool.false_and, Bool.false_eq_true, if_false]; omega

/-- How many of the bytes from `offset` on are marks while `id` is on top of the stack. -/
def countTop (isMark : UInt8 × ByteClass → Bool) (id size : Nat) (p : Pending) (offset : Nat) :
    List (UInt8 × ByteClass) → Nat
  | [] => 0
  | x :: rest => (if isMark x && p.stack.headD 0 == id then 1 else 0) +
      countTop isMark id size (p.step size offset x.1 x.2) (offset + 1) rest

variable {isMark : UInt8 × ByteClass → Bool} {id size offset : Nat} {p : Pending}

theorem countTop_append (v : List (UInt8 × ByteClass)) :
    countTop isMark id size p offset (v ++ w) =
      countTop isMark id size p offset v + countTop isMark id size (p.run size offset v) (offset + v.length) w := by
  induction v generalizing p offset with
  | nil => simp [countTop, Pending.run]
  | cons x v ih =>
    rw [List.cons_append, countTop, ih, countTop, Pending.run, List.length_cons, Nat.add_assoc, Nat.add_assoc,
      Nat.add_comm 1 v.length]

section Marks

variable (noCloser : ∀ x, isMark x = true → closed? x = none)

include noCloser

theorem countTop_closer {closer : UInt8 × ByteClass} {kind : BracketKind} (closes : closed? closer = some kind) :
    countTop isMark id size p offset [closer] = 0 := by
  have notMark : isMark closer = false := by
    rw [Bool.eq_false_iff]
    intro mark
    rw [noCloser closer mark] at closes
    cases closes
  simp [countTop, notMark]

/-- Between well nested brackets no earlier region comes to the top of the stack. -/
theorem countTop_eq_zero (nested : WellNested w) (old : id < p.regions.size) (other : p.stack.headD 0 ≠ id) :
    countTop isMark id size p offset w = 0 := by
  induction nested generalizing p offset with
  | nil => rfl
  | @plain x rest opens closes _ ih =>
    rw [countTop, Pending.step_of_none opens closes, ih old other]
    simp only [beq_false_of_ne other, Bool.and_false, Bool.false_eq_true, if_false]
  | @pair opener closer kind inner rest opens between closes _ ihBetween ihBehind =>
    obtain ⟨stack, grows⟩ := (WellNested.block opens between closes).stack_run size offset p
    have inside : countTop isMark id size (p.enter size offset kind) (offset + 1) inner = 0 :=
      ihBetween (by rw [Pending.size_enter]; omega) (by simpa using Nat.ne_of_gt old)
    rw [List.append_cons, ← List.cons_append, countTop_append,
      ihBehind (by omega) (by rw [stack]; exact other), countTop, Pending.step_of_opened? opens, countTop_append,
      inside, countTop_closer noCloser closes]
    simp only [beq_false_of_ne other, Bool.and_false, Bool.false_eq_true, if_false]

/-- A pair of brackets directly in a region counts as its opener does. -/
theorem countTop_pair {opener closer : UInt8 × ByteClass} {kind : BracketKind} {inner : List (UInt8 × ByteClass)}
    (opens : opened? opener = some kind) (between : WellNested inner) (closes : closed? closer = some kind)
    (old : id < p.regions.size) (top : p.stack.headD 0 = id) :
    countTop isMark id size p offset (opener :: (inner ++ [closer])) = if isMark opener then 1 else 0 := by
  have inside : countTop isMark id size (p.enter size offset kind) (offset + 1) inner = 0 :=
    countTop_eq_zero noCloser between (by rw [Pending.size_enter]; omega) (by simpa using Nat.ne_of_gt old)
  rw [countTop, Pending.step_of_opened? opens, countTop_append, inside, countTop_closer noCloser closes, top]
  simp

/-- The innermost regions are those on top of the stack. -/
theorem countP_innermostAt_eq (id : Nat) (before : List (UInt8 × ByteClass)) (parts : bs = before ++ w) :
    (w.zipIdx before.length).countP (fun y => isMark y.1 && (ofBytes bs).innermostAt y.2 == id) =
      countTop isMark id bs.length (pendingAfter bs.length before) before.length w := by
  induction w generalizing before with
  | nil => rfl
  | cons x w ih =>
    have behind := ih (before ++ [x]) (by rw [parts, List.append_assoc, List.singleton_append])
    rw [List.length_append, List.length_singleton, pendingAfter_append] at behind
    rw [List.zipIdx_cons, List.countP_cons, behind, countTop, Nat.add_comm]
    congr 1
    by_cases mark : isMark x = true
    · rw [innermostAt_ofBytes parts (noCloser x mark)]
    · simp [mark]

/-- What is counted in the innermost open region stands behind its opener. -/
theorem countIn_eq {r : Region} {front : List (UInt8 × ByteClass)} {opener : UInt8 × ByteClass}
    (bracketed : 0 < id) (here : (ofBytes bs).regions[id]? = some r) (starts : front.length = r.start)
    (parts : bs = front ++ opener :: w) :
    (ofBytes bs).countIn bs id isMark =
      countTop isMark id bs.length (pendingAfter bs.length (front ++ [opener])) (front.length + 1) w := by
  have parts' : bs = (front ++ [opener]) ++ w := by rw [parts, List.append_assoc, List.singleton_append]
  have behind := countP_innermostAt_eq noCloser id (front ++ [opener]) parts'
  rw [List.length_append, List.length_singleton] at behind
  have inFront : (front ++ [opener]).zipIdx.countP
      (fun y => isMark y.1 && (ofBytes bs).innermostAt y.2 == id) = 0 := by
    rw [List.countP_eq_zero]
    intro y member
    have early := (List.mem_zipIdx_iff_getElem?.1 member)
    have less := (List.getElem?_eq_some_iff.1 early).1
    rw [List.length_append, List.length_singleton] at less
    simp only [Bool.and_eq_true, beq_iff_eq, not_and]
    intro _ isInnermost
    rcases ((isArenaOf_ofBytes bs).innermostAt_iff.1 isInnermost).1 with rfl | around
    · exact absurd bracketed (Nat.lt_irrefl 0)
    · have := (encloses_iff here).1 around
      omega
  have whole : (ofBytes bs).countIn bs id isMark = ((front ++ [opener]) ++ w).zipIdx.countP
      (fun y => isMark y.1 && (ofBytes bs).innermostAt y.2 == id) := by
    rw [countIn, ← parts']
  rw [whole, List.zipIdx_append, List.countP_append, inFront, Nat.zero_add, Nat.zero_add, List.length_append,
    List.length_singleton, behind]

end Marks

end ShaderAnalysis.Brackets
