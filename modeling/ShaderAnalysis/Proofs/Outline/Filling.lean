import ShaderAnalysis.Proofs.Outline.Nesting

/-!
# Filling outlines

Extraction puts a declaration into an outline and, later, what is declared in it, in the order of the text.
Clamping moves spans but keeps their order, so an outline that is filled in this way stays orderly: what is
listed below a declaration does not overlap (`IsOrderly.addAll`). Below the blocks of a shader document
nothing is said of the order.
-/

namespace ShaderAnalysis

/-- Whether the symbol is the shader or a block of it: other passes put symbols below it in an order of their own. -/
def SymbolKind.isBlock : SymbolKind → Bool
  | file | package => true
  | _ => false

namespace Span

theorem stop_clampTo (s outer : Span) : (s.clampTo outer).stop = clamp s.stop outer.start outer.stop := by
  have := s.start_le_stop
  simp only [clampTo, clamp]
  omega

theorem clamp_le_clamp {a b : Nat} (h : a ≤ b) (low high : Nat) : clamp a low high ≤ clamp b low high := by
  simp only [clamp]
  omega

/-- A span that is as long as before has not been cut. -/
theorem clampTo_of_length {s outer : Span} (whole : (s.clampTo outer).length = s.length) (nonempty : 0 < s.length) :
    s.clampTo outer = s := by
  have := s.start_le_stop
  have := outer.start_le_stop
  have stop := stop_clampTo s outer
  simp only [length, clamp, stop] at whole nonempty
  have start : (s.clampTo outer).start = max outer.start (min s.start outer.stop) := rfl
  ext
  · omega
  · rw [stop, clamp]
    omega

end Span

/-- The symbol ends before the other one starts. -/
def Symbol.Precedes (s s' : Symbol) : Prop :=
  s.span.stop ≤ s'.span.start

namespace Outline

variable {t : Outline} {named : Symbol → Prop} {id other : Nat}

/-- The first symbol ends before the second one starts. -/
def Precedes (t : Outline) (a b : Nat) : Prop :=
  ∀ s s', t.get? a = some s → t.get? b = some s' → s.Precedes s'

/-- Symbols are nested, the names of all of them are in order, and below a declaration they follow one another. -/
structure IsOrderly (named : Symbol → Prop) (t : Outline) : Prop where
  nested : t.IsNested
  named : ∀ id s, t.get? id = some s → named s
  ordered : ∀ id s, t.get? id = some s → s.kind.isBlock = false → (t.children id).Pairwise t.Precedes

/-- What starts at `bound` or later can be listed below the symbol: it is a block, or what is listed there ends
before `bound`, except that it cannot reach out of the symbol. -/
def IsOpen (t : Outline) (id bound : Nat) : Prop :=
  ∃ outer, t.get? id = some outer ∧ (outer.kind.isBlock = false →
    ∀ child ∈ t.children id, ∀ s, t.get? child = some s →
      s.span.stop ≤ Span.clamp bound outer.span.start outer.span.stop)

theorem isOrderly_empty (named : Symbol → Prop) : empty.IsOrderly named where
  nested := isNested_empty
  named := by
    intro id s here
    cases here
  ordered := by
    intro id s here
    cases here

/-! ## Adding one symbol -/

theorem fit_none (t : Outline) (s : Symbol) : t.fit none s = { s with selection := s.selection.clampTo s.span } :=
  rfl

theorem fit_some {outer : Symbol} (here : t.get? id = some outer) (s : Symbol) :
    t.fit (some id) s =
      { s with
        span := s.span.clampTo outer.span
        selection := s.selection.clampTo (s.span.clampTo outer.span) } := by
  simp only [fit, Option.bind_some, here]

/-- What lies inside a symbol is put below it as it is. -/
theorem fit_of_covers {outer s : Symbol} (here : t.get? id = some outer) (inside : outer.span.covers s.span = true)
    (selection : s.span.covers s.selection = true) : t.fit (some id) s = s := by
  rw [fit_some here, Span.clampTo_of_covers inside, Span.clampTo_of_covers selection]

theorem get?_push_of_some {s : Symbol} (here : t.get? id = some s) (parent : Option Nat) (new : Symbol) :
    (t.push parent new).1.get? id = some s := by
  rw [get?_push, if_neg (Nat.ne_of_lt (lt_of_get? here)), here]

theorem IsOpen.lt_size {bound : Nat} (isOpen : t.IsOpen id bound) : id < t.size := by
  obtain ⟨outer, here, -⟩ := isOpen
  exact lt_of_get? here

theorem IsOpen.mono {low high : Nat} (isOpen : t.IsOpen id low) (le : low ≤ high) : t.IsOpen id high := by
  obtain ⟨outer, here, ends⟩ := isOpen
  refine ⟨outer, here, fun declares child member s isChild => ?_⟩
  exact Nat.le_trans (ends declares child member s isChild) (Span.clamp_le_clamp le ..)

/-- A new symbol has nothing below it. -/
theorem isOpen_push (t : Outline) (parent : Option Nat) (s : Symbol) (bound : Nat) :
    (t.push parent s).1.IsOpen t.size bound := by
  refine ⟨t.fit parent s, by rw [get?_push, if_pos rfl], fun _ child member => ?_⟩
  have childless : (t.push parent s).1.children t.size = [] := by
    rw [children_push, if_neg fun h => Nat.lt_irrefl _ h.2]
    exact children_of_le (Nat.le_refl _)
  rw [childless] at member
  cases member

/-- What is put somewhere else takes no room. -/
theorem IsOpen.push {bound : Nat} (isOpen : t.IsOpen id bound) (forest : t.IsForest) {parent : Option Nat}
    (elsewhere : parent = some id → ∃ s, t.get? id = some s ∧ s.kind.isBlock = true) (s : Symbol) :
    (t.push parent s).1.IsOpen id bound := by
  obtain ⟨outer, here, ends⟩ := isOpen
  refine ⟨outer, get?_push_of_some here parent s, fun declares child member symbol isChild => ?_⟩
  have other : ¬parent = some id := by
    intro same
    obtain ⟨block, isBlock, kind⟩ := elsewhere same
    cases here.symm.trans isBlock
    exact Bool.false_ne_true (declares.symm.trans kind)
  rw [children_push, if_neg fun h => other h.1] at member
  rw [get?_push, if_neg (Nat.ne_of_lt (forest.child id child member).2.1)] at isChild
  exact ends declares child member symbol isChild

theorem IsOrderly.push (orderly : t.IsOrderly named) {parent : Option Nat} {s : Symbol}
    (isOpen : ∀ above ∈ parent, t.IsOpen above s.span.start) (isNamed : named (t.fit parent s)) :
    (t.push parent s).1.IsOrderly named where
  nested := orderly.nested.push (fun above is => (isOpen above is).lt_size) s
  named := by
    intro id symbol here
    rw [get?_push] at here
    split at here
    · cases here
      exact isNamed
    · exact orderly.named id symbol here
  ordered := by
    intro id symbol here declares
    have forest := orderly.nested.forest
    have old {a b : Nat} (memberA : a ∈ t.children id) (memberB : b ∈ t.children id) (h : t.Precedes a b) :
        (t.push parent s).1.Precedes a b := by
      intro first second isFirst isSecond
      rw [get?_push, if_neg (Nat.ne_of_lt (forest.child id a memberA).2.1)] at isFirst
      rw [get?_push, if_neg (Nat.ne_of_lt (forest.child id b memberB).2.1)] at isSecond
      exact h first second isFirst isSecond
    rw [get?_push] at here
    split at here
    · -- the new symbol
      rename_i new
      rw [children_push, if_neg fun h => by omega, children_of_le (Nat.le_of_eq new.symm)]
      exact List.Pairwise.nil
    · have before := (orderly.ordered id symbol here declares).imp_of_mem old
      rw [children_push]
      split
      · rename_i below
        obtain ⟨outer, isOuter, ends⟩ := isOpen id below.1
        cases here.symm.trans isOuter
        refine List.pairwise_append.2 ⟨before, List.pairwise_singleton _ _, ?_⟩
        intro child member last isLast first second isFirst isSecond
        rw [List.mem_singleton.1 isLast, get?_push, if_pos rfl, below.1, fit_some here] at isSecond
        rw [get?_push, if_neg (Nat.ne_of_lt (forest.child id child member).2.1)] at isFirst
        cases isSecond
        exact ends declares child member first isFirst
      · exact before

theorem IsOrderly.setDetail (orderly : t.IsOrderly named) (detailed : ∀ s d, named s → named { s with detail := d })
    (id : Nat) (detail : String) : (t.setDetail id detail).IsOrderly named := by
  have old {other : Nat} {s : Symbol} (here : (t.setDetail id detail).get? other = some s) :
      ∃ s', t.get? other = some s' ∧ (s = s' ∨ s = { s' with detail := detail }) := by
    rw [get?_setDetail] at here
    obtain ⟨s', isOld, rfl⟩ := Option.map_eq_some_iff.1 here
    refine ⟨s', isOld, ?_⟩
    split
    · exact .inr rfl
    · exact .inl rfl
  constructor
  · exact orderly.nested.setDetail id detail
  · intro other s here
    obtain ⟨s', isOld, rfl | rfl⟩ := old here
    · exact orderly.named other s isOld
    · exact detailed s' detail (orderly.named other s' isOld)
  · intro other s here declares
    obtain ⟨s', isOld, same⟩ := old here
    have kind : s'.kind.isBlock = false := by
      rcases same with rfl | rfl <;> exact declares
    rw [children_setDetail]
    refine (orderly.ordered other s' isOld kind).imp fun h first second isFirst isSecond => ?_
    obtain ⟨first', isFirst', sameFirst⟩ := old isFirst
    obtain ⟨second', isSecond', sameSecond⟩ := old isSecond
    have precedes := h first' second' isFirst' isSecond'
    rcases sameFirst with rfl | rfl <;> rcases sameSecond with rfl | rfl <;> exact precedes

/-! ## Adding what a declaration declares -/

/-- Puts symbols below another one, one after the other. -/
def addAll (t : Outline) (id : Nat) (members : List Symbol) : Outline :=
  members.foldl (fun t s => t.add (some id) s) t

/-- If every step of a pass adds a symbol for what it has come to, or nothing, then the pass adds symbols in the
order of the text. -/
theorem exists_addAll_of_foldl {α : Type} {xs : List α} {span : α → Span} {step : Outline → α → Outline}
    (holds : Symbol → Prop) (apart : xs.Pairwise fun x y => (span x).stop ≤ (span y).start)
    (steps : ∀ x ∈ xs, ∀ t, step t x = t ∨
      ∃ s, step t x = t.add (some id) s ∧ holds s ∧ (span x).covers s.span = true) (t : Outline) :
    ∃ members, xs.foldl step t = t.addAll id members ∧ members.Pairwise Symbol.Precedes ∧
      ∀ s ∈ members, holds s ∧ ∃ x ∈ xs, (span x).covers s.span = true := by
  induction xs generalizing t with
  | nil => exact ⟨[], rfl, List.Pairwise.nil, fun s member => absurd member List.not_mem_nil⟩
  | cons x xs ih =>
    obtain ⟨first, apart⟩ := List.pairwise_cons.1 apart
    have further := ih apart fun y member => steps y (List.mem_cons_of_mem _ member)
    rcases steps x List.mem_cons_self t with same | ⟨s, added, isHeld, covers⟩
    · obtain ⟨members, run, precede, from_⟩ := further t
      refine ⟨members, by rw [List.foldl_cons, same, run], precede, fun s member => ?_⟩
      obtain ⟨isHeld, y, isOne, covers⟩ := from_ s member
      exact ⟨isHeld, y, List.mem_cons_of_mem _ isOne, covers⟩
    · obtain ⟨members, run, precede, from_⟩ := further (t.add (some id) s)
      refine ⟨s :: members, by rw [List.foldl_cons, added, run]; rfl, ?_, ?_⟩
      · refine List.pairwise_cons.2 ⟨fun s' member => ?_, precede⟩
        obtain ⟨-, y, isOne, covers'⟩ := from_ s' member
        have := first y isOne
        rw [Span.covers_iff] at covers covers'
        simp only [Symbol.Precedes]
        omega
      · intro s' member
        rcases List.mem_cons.1 member with rfl | member
        · exact ⟨isHeld, x, List.mem_cons_self, covers⟩
        · obtain ⟨isHeld, y, isOne, covers⟩ := from_ s' member
          exact ⟨isHeld, y, List.mem_cons_of_mem _ isOne, covers⟩

/-- After a symbol is added below another one, what starts behind it can be added. -/
theorem IsOpen.add {s : Symbol} (isOpen : t.IsOpen id s.span.start) (forest : t.IsForest) :
    (t.add (some id) s).IsOpen id s.span.stop := by
  obtain ⟨outer, here, ends⟩ := isOpen
  refine ⟨outer, get?_push_of_some here (some id) s, fun declares child member symbol isChild => ?_⟩
  rw [Outline.add, children_push, if_pos ⟨rfl, lt_of_get? here⟩] at member
  rcases List.mem_append.1 member with old | new
  · rw [Outline.add, get?_push, if_neg (Nat.ne_of_lt (forest.child id child old).2.1)] at isChild
    exact Nat.le_trans (ends declares child old symbol isChild) (Span.clamp_le_clamp s.span.start_le_stop ..)
  · rw [List.mem_singleton.1 new, Outline.add, get?_push, if_pos rfl, fit_some here] at isChild
    cases isChild
    exact Nat.le_of_eq (Span.stop_clampTo ..)

/-- An outline stays orderly if it is filled in the order of the text. -/
theorem IsOrderly.addAll {members : List Symbol} {outer : Symbol} {low high : Nat} (orderly : t.IsOrderly named)
    (here : t.get? id = some outer) (isOpen : t.IsOpen id low) (precede : members.Pairwise Symbol.Precedes)
    (inside : ∀ s ∈ members, low ≤ s.span.start ∧ s.span.stop ≤ high) (le : low ≤ high)
    (isNamed : ∀ s ∈ members, named
      { s with
        span := s.span.clampTo outer.span
        selection := s.selection.clampTo (s.span.clampTo outer.span) }) :
    (t.addAll id members).IsOrderly named ∧ (t.addAll id members).IsOpen id high := by
  induction members generalizing t low with
  | nil => exact ⟨orderly, isOpen.mono le⟩
  | cons s members ih =>
    obtain ⟨first, precede⟩ := List.pairwise_cons.1 precede
    obtain ⟨lower, upper⟩ := inside s List.mem_cons_self
    have isOpen' := isOpen.mono lower
    have pushed : (t.add (some id) s).IsOrderly named := by
      refine orderly.push (fun above is => ?_) ?_
      · cases is
        exact isOpen'
      · rw [fit_some here]
        exact isNamed s List.mem_cons_self
    refine ih pushed (get?_push_of_some here ..) (isOpen'.add orderly.nested.forest) precede ?_ upper ?_
    · exact fun s' member => ⟨first s' member, (inside s' (List.mem_cons_of_mem _ member)).2⟩
    · exact fun s' member => isNamed s' (List.mem_cons_of_mem _ member)

section

variable (members : List Symbol)

theorem get?_addAll {s : Symbol} (here : t.get? other = some s) : (t.addAll id members).get? other = some s := by
  induction members generalizing t with
  | nil => exact here
  | cons new members ih => exact ih (get?_push_of_some here (some id) new)

theorem IsOpen.addAll_elsewhere {bound : Nat} (isOpen : t.IsOpen other bound) (forest : t.IsForest)
    (elsewhere : id = other → ∃ s, t.get? other = some s ∧ s.kind.isBlock = true) :
    (t.addAll id members).IsOpen other bound := by
  induction members generalizing t with
  | nil => exact isOpen
  | cons new members ih =>
    have isOpen' := isOpen.push forest (fun same => elsewhere (Option.some.inj same)) new
    refine ih isOpen' (forest.push (some id) new) fun same => ?_
    obtain ⟨s, here, isBlock⟩ := elsewhere same
    exact ⟨s, get?_push_of_some here (some id) new, isBlock⟩

end

end Outline

end ShaderAnalysis
