import Mathlib.Data.List.TakeDrop
import Mathlib.Data.List.TakeWhile
import ShaderAnalysis.Proofs.Lexical.Brackets

/-!
# What one bracket does

A bracket that counts adds a region to the arena (`getElem?_enter`), or ends the nearest pending region of its
kind and seals those inside it (`leave_cases`). All that later lemmas need to know of a step stands here.
-/

namespace ShaderAnalysis.Brackets

/-! ## Brackets that count -/

/-- The kind of region that a byte of this class opens; only code has brackets. -/
def opened? (x : UInt8 × ByteClass) : Option BracketKind :=
  if x.2 = .code then BracketKind.openedBy? x.1 else none

/-- The kind of region that a byte of this class closes. -/
def closed? (x : UInt8 × ByteClass) : Option BracketKind :=
  if x.2 = .code then BracketKind.closedBy? x.1 else none

theorem closed?_of_opened? {x : UInt8 × ByteClass} {kind : BracketKind} (h : opened? x = some kind) :
    closed? x = none := by
  unfold opened? BracketKind.openedBy? at h
  unfold closed? BracketKind.closedBy?
  split at h
  · split at h
    · simp_all
    · split at h
      · simp_all
      · cases h
  · cases h

theorem opened?_of_closed? {x : UInt8 × ByteClass} {kind : BracketKind} (h : closed? x = some kind) :
    opened? x = none := by
  cases opens : opened? x with
  | none => rfl
  | some other =>
    rw [closed?_of_opened? opens] at h
    cases h

namespace Pending

variable {size offset : Nat} {p : Pending}

theorem step_of_opened? {x : UInt8 × ByteClass} {kind : BracketKind} (h : opened? x = some kind) :
    p.step size offset x.1 x.2 = p.enter size offset kind := by
  unfold opened? at h
  split at h
  · rename_i code
    rw [step, if_pos code, h]
  · cases h

theorem step_of_closed? {x : UInt8 × ByteClass} {kind : BracketKind} (h : closed? x = some kind) :
    p.step size offset x.1 x.2 = p.leave offset kind := by
  have opens := opened?_of_closed? h
  unfold closed? at h
  unfold opened? at opens
  split at h
  · rename_i code
    rw [if_pos code] at opens
    rw [step, if_pos code, opens, h]
  · cases h

theorem step_of_none {x : UInt8 × ByteClass} (opens : opened? x = none) (closes : closed? x = none) :
    p.step size offset x.1 x.2 = p := by
  unfold opened? at opens
  unfold closed? at closes
  rw [step]
  split
  · rename_i code
    rw [if_pos code] at opens closes
    rw [opens, closes]
  · rfl

/-- A property that brackets keep is kept by every byte. -/
theorem step_induction {motive : Pending → Prop} (x : UInt8 × ByteClass)
    (enter : ∀ kind, opened? x = some kind → motive (p.enter size offset kind))
    (leave : ∀ kind, closed? x = some kind → motive (p.leave offset kind))
    (skip : opened? x = none → closed? x = none → motive p) : motive (p.step size offset x.1 x.2) := by
  cases opens : opened? x with
  | some kind =>
    rw [step_of_opened? opens]
    exact enter kind opens
  | none =>
    cases closes : closed? x with
    | some kind =>
      rw [step_of_closed? closes]
      exact leave kind closes
    | none =>
      rw [step_of_none opens closes]
      exact skip opens closes

/-! ## Openers -/

/-- A region with one more child, if it is the parent of that. -/
def withChild (parent child id : Nat) (r : Region) : Region :=
  { r with children := if id = parent then r.children ++ [child] else r.children }

@[simp] theorem stack_enter (kind : BracketKind) : (p.enter size offset kind).stack = p.regions.size :: p.stack :=
  rfl

theorem getElem?_modify_children (regions : Array Region) (parent child id : Nat) :
    (regions.modify parent fun r => { r with children := r.children ++ [child] })[id]? =
      regions[id]?.map (withChild parent child id) := by
  rw [Array.getElem?_modify]
  by_cases isParent : parent = id
  · subst isParent
    rw [if_pos rfl]
    congr 1
    funext r
    rw [withChild, if_pos rfl]
  · rw [if_neg isParent]
    cases regions[id]? with
    | none => rfl
    | some r => rw [Option.map_some, withChild, if_neg (Ne.symm isParent)]

/-- The arena behind an opener: one more region, and one that lists it. -/
theorem getElem?_enter (kind : BracketKind) (id : Nat) :
    (p.enter size offset kind).regions[id]? =
      if id = p.regions.size then some ⟨offset, size, kind, false, some (p.stack.headD 0), []⟩
      else p.regions[id]?.map (withChild (p.stack.headD 0) p.regions.size id) := by
  rw [enter, Array.getElem?_push, Array.size_modify, getElem?_modify_children]

theorem getElem?_enter_of_some {kind : BracketKind} {id : Nat} {r : Region} (here : p.regions[id]? = some r) :
    (p.enter size offset kind).regions[id]? = some (withChild (p.stack.headD 0) p.regions.size id r) := by
  rw [getElem?_enter, if_neg (Nat.ne_of_lt (Array.getElem?_eq_some_iff.1 here).1), here, Option.map_some]

/-- A region behind an opener is the new one, or was there before. -/
theorem enter_cases {kind : BracketKind} {id : Nat} {r : Region}
    (here : (p.enter size offset kind).regions[id]? = some r) :
    id = p.regions.size ∧ r = ⟨offset, size, kind, false, some (p.stack.headD 0), []⟩ ∨
      id ≠ p.regions.size ∧ ∃ old, p.regions[id]? = some old ∧
        r = withChild (p.stack.headD 0) p.regions.size id old := by
  rw [getElem?_enter] at here
  split at here
  · rename_i isNew
    exact .inl ⟨isNew, (Option.some.inj here).symm⟩
  · rename_i isOther
    obtain ⟨old, isOld, same⟩ := Option.map_eq_some_iff.1 here
    exact .inr ⟨isOther, old, isOld, same.symm⟩

/-! ## Closers -/

/-- A region behind a closer at `offset` that ends region `matched` and seals the regions in `skipped`. -/
def ended (offset : Nat) (skipped : List Nat) (matched id : Nat) (r : Region) : Region :=
  { r with
    stop := if id = matched then offset + 1 else if id ∈ skipped then offset else r.stop
    closed := id = matched || (r.closed && id ∉ skipped) }

section Ended

variable (skipped : List Nat) (matched id : Nat) (r : Region)

@[simp] theorem kind_ended : (ended offset skipped matched id r).kind = r.kind := rfl

@[simp] theorem children_ended : (ended offset skipped matched id r).children = r.children := rfl

/-- A closer only touches pending regions. -/
theorem ended_of_ne (notMatched : id ≠ matched) (notSkipped : id ∉ skipped) :
    ended offset skipped matched id r = r := by
  simp [ended, notMatched, notSkipped]

theorem ended_of_mem (notMatched : id ≠ matched) (isSkipped : id ∈ skipped) :
    ended offset skipped matched id r = { r with stop := offset, closed := false } := by
  simp [ended, notMatched, isSkipped]

theorem ended_self : ended offset skipped matched matched r = { r with stop := offset + 1, closed := true } := by
  simp [ended]

end Ended

theorem getElem?_finish (regions : Array Region) (id stop : Nat) (closed : Bool) (other : Nat) :
    (finish regions id stop closed)[other]? =
      regions[other]?.map fun r =>
        { r with
          stop := if other = id then stop else r.stop
          closed := if other = id then closed else r.closed } := by
  rw [finish, Array.getElem?_modify]
  by_cases same : id = other
  · simp only [same, if_pos]
  · simp only [if_neg same, if_neg (Ne.symm same), Option.map_id_fun', id_eq]

theorem getElem?_foldl_finish (regions : Array Region) (ids : List Nat) (stop id : Nat) :
    (ids.foldl (fun regions id => finish regions id stop false) regions)[id]? =
      regions[id]?.map fun r =>
        { r with stop := if id ∈ ids then stop else r.stop, closed := r.closed && id ∉ ids } := by
  induction ids generalizing regions with
  | nil => simp
  | cons first ids ih =>
    rw [List.foldl_cons, ih, getElem?_finish, Option.map_map]
    congr 1
    funext r
    by_cases isFirst : id = first <;> by_cases isLater : id ∈ ids <;> simp [isFirst, isLater]

theorem size_eq_of_map {regions regions' : Array Region} {f : Nat → Region → Region}
    (each : ∀ id : Nat, regions'[id]? = regions[id]?.map (f id)) : regions'.size = regions.size := by
  have limits (id : Nat) : regions'.size ≤ id ↔ regions.size ≤ id := by
    rw [← Array.getElem?_eq_none_iff, each, Option.map_eq_none_iff, Array.getElem?_eq_none_iff]
  exact Nat.le_antisymm ((limits _).2 (Nat.le_refl _)) ((limits _).1 (Nat.le_refl _))

/-- A closer without a pending opener of its kind does nothing. Any other ends the nearest one and seals the
pending regions inside it. -/
theorem leave_cases (p : Pending) (offset : Nat) (kind : BracketKind) :
    (p.leave offset kind = p ∧ ∀ id ∈ p.stack, ∀ r, p.regions[id]? = some r → r.kind ≠ kind) ∨
      ∃ skipped matched stack, p.stack = skipped ++ matched :: stack ∧ (p.leave offset kind).stack = stack ∧
        (∃ r, p.regions[matched]? = some r ∧ r.kind = kind) ∧
        (∀ id ∈ skipped, ∀ r, p.regions[id]? = some r → r.kind ≠ kind) ∧
        ∀ id, (p.leave offset kind).regions[id]? = p.regions[id]?.map (ended offset skipped matched id) := by
  rw [leave, List.span_eq_takeWhile_dropWhile]
  generalize isOther : (fun id : Nat => p.regions[id]?.all fun r : Region => r.kind != kind) = other
  have whole := List.takeWhile_append_dropWhile (p := other) (l := p.stack)
  have first := List.head?_dropWhile_not other p.stack
  have differs {id : Nat} (isOther' : other id = true) (r : Region) (here : p.regions[id]? = some r) :
      r.kind ≠ kind := by
    simpa [← isOther, here] using isOther'
  cases pending : p.stack.dropWhile other with
  | nil => exact .inl ⟨rfl, fun id isPending => differs (List.dropWhile_eq_nil_iff.1 pending id isPending)⟩
  | cons matched stack =>
    rw [pending] at whole first
    refine .inr ⟨p.stack.takeWhile other, matched, stack, whole.symm, rfl, ?_, ?_, ?_⟩
    · simp only [List.head?_cons] at first
      cases here : p.regions[matched]? with
      | none => simp [← isOther, here] at first
      | some r => exact ⟨r, rfl, by simpa [← isOther, here] using first⟩
    · exact fun id isSkipped => differs (List.mem_takeWhile_imp isSkipped)
    · intro id
      rw [getElem?_finish, getElem?_foldl_finish, Option.map_map]
      congr 1
      funext r
      by_cases isMatched : id = matched <;> simp [ended, isMatched]

end Pending

end ShaderAnalysis.Brackets
