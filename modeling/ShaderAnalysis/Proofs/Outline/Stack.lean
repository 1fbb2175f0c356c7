import Mathlib.Data.List.Pairwise
import ShaderAnalysis.Proofs.Outline.Names

/-!
# What a cursor is at

From the roots inwards, `stackAt` goes to the first symbol of each level that the cursor is at. So it has a
symbol if and only if the symbol and all symbols above it are the first ones of their levels that the cursor is
at (`IsNested.mem_stackAt`). What is declared in one declaration does not overlap; only roots, and symbols right
below the blocks of a shader document, can (`stackAt_extract`).
-/

namespace ShaderAnalysis

/-- No byte belongs to both spans. -/
def Span.Apart (a b : Span) : Prop :=
  a.stop ≤ b.start ∨ b.stop ≤ a.start

namespace Outline

variable {t : Outline} {offset : Nat}

/-- The symbol is the first one of its level that a cursor at `offset` is at. -/
def IsFirstAt (t : Outline) (offset id : Nat) : Prop :=
  (t.level (t.parent? id)).find? (t.touches offset) = some id

theorem IsForest.descendants_eq (forest : t.IsForest) (id : Nat) : t.descendants id = t.children id := by
  rw [descendants, List.filter_eq_self]
  intro child member
  obtain ⟨later, inside, -⟩ := forest.child id child member
  simp [later, inside]

theorem IsForest.isFirstAt_child (forest : t.IsForest) {id child : Nat}
    (found : (t.descendants id).find? (t.touches offset) = some child) :
    t.IsFirstAt offset child ∧ t.ancestors child = id :: t.ancestors id := by
  rw [forest.descendants_eq] at found
  obtain ⟨later, -, knows⟩ := forest.child id child (List.mem_of_find?_eq_some found)
  constructor
  · rw [IsFirstAt, knows]
    exact found
  · exact ancestors_of_parent? knows later

/-- The way down from a symbol leads to first symbols only. -/
theorem IsForest.isFirstAt_of_mem_stackFrom (forest : t.IsForest) {top id : Nat}
    (first : ∀ x ∈ top :: t.ancestors top, t.IsFirstAt offset x) (h : id ∈ t.stackFrom offset top) :
    ∀ x ∈ id :: t.ancestors id, t.IsFirstAt offset x := by
  fun_induction stackFrom t offset top with
  | case1 top _ =>
    rw [List.mem_singleton.1 h]
    exact first
  | case2 top child found ih =>
    rcases List.mem_cons.1 h with rfl | below
    · exact first
    · obtain ⟨isFirst, above⟩ := forest.isFirstAt_child found
      refine ih (fun x member => ?_) below
      rw [above] at member
      rcases List.mem_cons.1 member with rfl | member
      · exact isFirst
      · exact first x member

theorem self_mem_stackFrom (t : Outline) (offset id : Nat) : id ∈ t.stackFrom offset id := by
  rw [stackFrom]
  split <;> exact List.mem_cons_self

/-- The way down goes on to the first child. -/
theorem mem_stackFrom_child {top id child : Nat} (h : id ∈ t.stackFrom offset top)
    (found : (t.descendants id).find? (t.touches offset) = some child) : child ∈ t.stackFrom offset top := by
  fun_induction stackFrom t offset top with
  | case1 top none =>
    rw [List.mem_singleton.1 h] at found
    cases none.symm.trans found
  | case2 top next isNext ih =>
    rcases List.mem_cons.1 h with rfl | below
    · cases isNext.symm.trans found
      exact List.mem_cons_of_mem _ (self_mem_stackFrom t offset _)
    · exact List.mem_cons_of_mem _ (ih below)

/-- A cursor is said to be at a symbol if and only if it is the first of its level, and so is all that is above. -/
theorem IsForest.mem_stackAt (forest : t.IsForest) {id : Nat} :
    id ∈ t.stackAt offset ↔ ∀ x ∈ id :: t.ancestors id, t.IsFirstAt offset x := by
  constructor
  · intro h
    rw [stackAt] at h
    split at h
    · cases h
    · rename_i root found
      obtain ⟨-, isRoot⟩ := forest.root root (List.mem_of_find?_eq_some found)
      refine forest.isFirstAt_of_mem_stackFrom (fun x member => ?_) h
      rw [ancestors, isRoot] at member
      rw [List.mem_singleton.1 member, IsFirstAt, isRoot]
      exact found
  · intro first
    induction id using Nat.strongRecOn with
    | ind id ih =>
      have isFirst := first id List.mem_cons_self
      cases knows : t.parent? id with
      | none =>
        rw [IsFirstAt, knows] at isFirst
        rw [stackAt, show t.roots.find? (t.touches offset) = some id from isFirst]
        exact self_mem_stackFrom t offset id
      | some above =>
        rw [IsFirstAt, knows] at isFirst
        have found : (t.children above).find? (t.touches offset) = some id := isFirst
        obtain ⟨later, -, -⟩ := forest.child above id (List.mem_of_find?_eq_some found)
        rw [ancestors_of_parent? knows later] at first
        have outer : above ∈ t.stackAt offset :=
          ih above later fun x member => first x (List.mem_cons_of_mem _ member)
        rw [stackAt] at outer ⊢
        split at outer
        · cases outer
        · exact mem_stackFrom_child outer ((forest.descendants_eq above).symm ▸ found)

/-! ## Symbols that are apart -/

/-- The spans of the symbols have no byte in common. -/
def Apart (t : Outline) (a b : Nat) : Prop :=
  ∀ s s', t.get? a = some s → t.get? b = some s' → s.span.Apart s'.span

instance (t : Outline) : Std.Symm t.Apart where
  symm _ _ apart := fun s s' here here' => (apart s' s here' here).symm

theorem Precedes.apart {a b : Nat} (h : t.Precedes a b) : t.Apart a b :=
  fun s s' here here' => .inl (h s s' here here')

/-- The symbol is a root, or it stands right below a block of a shader document. -/
def IsOutermost (t : Outline) (id : Nat) : Prop :=
  ∀ above s, t.parent? id = some above → t.get? above = some s → s.kind.isBlock = true

/-- What is above a symbol reaches at least as far. -/
theorem IsNested.covers_ancestors (nested : t.IsNested) {id : Nat} {s : Symbol} (here : t.get? id = some s) {x : Nat}
    (h : x ∈ id :: t.ancestors id) : ∃ outer, t.get? x = some outer ∧ outer.span.covers s.span = true := by
  induction id using Nat.strongRecOn generalizing s with
  | ind id ih =>
    rcases List.mem_cons.1 h with rfl | above
    · exact ⟨s, here, Span.covers_iff.2 ⟨Nat.le_refl _, Nat.le_refl _⟩⟩
    · obtain ⟨parent, knows, later, member⟩ := exists_parent?_of_mem_ancestors above
      obtain ⟨outer, isOuter, covers⟩ := nested.child id s parent here knows
      obtain ⟨top, isTop, covers'⟩ := ih parent later isOuter member
      refine ⟨top, isTop, ?_⟩
      rw [Span.covers_iff] at covers covers' ⊢
      omega

/-- Strictly inside a symbol, the cursor is at no symbol that is apart from it. -/
theorem isFirstAt_of_apart (nested : t.IsNested) {id : Nat} {s : Symbol} (here : t.get? id = some s)
    (inside : s.span.start < offset ∧ offset < s.span.stop)
    (apart : ∀ other ∈ t.level (t.parent? id), other ≠ id → t.Apart id other) : t.IsFirstAt offset id := by
  have touched : t.touches offset id = true := by
    rw [touches, here, Option.any_some, Span.touches_iff]
    omega
  have listed := nested.listed id (lt_of_get? here)
  obtain ⟨first, found⟩ := Option.isSome_iff_exists.1 (List.find?_isSome.2 ⟨id, listed, touched⟩)
  by_cases same : first = id
  · rw [IsFirstAt, found, same]
  · have touches := List.find?_some found
    have member := List.mem_of_find?_eq_some found
    obtain ⟨s', isFirst⟩ := exists_get? (nested.forest.lt_of_mem_level member).1
    rw [Outline.touches, isFirst, Option.any_some, Span.touches_iff] at touches
    have := apart first member same s s' here isFirst
    rw [Span.Apart] at this
    omega

/-- In an orderly outline, only outermost symbols can keep a cursor from the symbols that it is inside of. -/
theorem IsOrderly.mem_stackAt {named : Symbol → Prop} (orderly : t.IsOrderly named) {id : Nat} {s : Symbol}
    (here : t.get? id = some s) (inside : s.span.start < offset ∧ offset < s.span.stop)
    (apart : ∀ x ∈ id :: t.ancestors id, t.IsOutermost x →
      ∀ other ∈ t.level (t.parent? x), other ≠ x → t.Apart x other) :
    id ∈ t.stackAt offset := by
  refine orderly.nested.forest.mem_stackAt.2 fun x member => ?_
  obtain ⟨outer, isOuter, covers⟩ := orderly.nested.covers_ancestors here member
  rw [Span.covers_iff] at covers
  refine isFirstAt_of_apart orderly.nested isOuter (by omega) fun other listed different => ?_
  by_cases outermost : t.IsOutermost x
  · exact apart x member outermost other listed different
  · obtain ⟨above, knows, declaration, isAbove, declares⟩ : ∃ above, t.parent? x = some above ∧
        ∃ s, t.get? above = some s ∧ s.kind.isBlock = false := by
      simpa [IsOutermost] using outermost
    have siblings : (t.children above).Pairwise t.Apart :=
      (orderly.ordered above declaration isAbove declares).imp Precedes.apart
    have self := orderly.nested.listed x (lt_of_get? isOuter)
    rw [knows] at listed self
    exact siblings.forall self listed different.symm

theorem exists_isOrderly_extract (language : Language) (text : String) :
    ∃ named, (extract language text).IsOrderly named := by
  cases language with
  | hlsl => exact ⟨_, isOrderly_extract_hlsl text⟩
  | shaderLab => exact ⟨_, isOrderly_extract_shaderLab text⟩

/-- What is right below a declaration follows one another. A cursor is said to be at a symbol if and only if it is
the first of its level that the cursor is at, and so is all that is above it. So a cursor strictly inside a
symbol is said to be at it, unless an outermost symbol that is not apart from those above it comes before. -/
theorem stackAt_extract (language : Language) (text : String) :
    (∀ id s, (extract language text).get? id = some s → s.kind.isBlock = false →
        ((extract language text).children id).Pairwise (extract language text).Precedes) ∧
      (∀ offset id, id ∈ (extract language text).stackAt offset ↔
        ∀ x ∈ id :: (extract language text).ancestors id, (extract language text).IsFirstAt offset x) ∧
      ∀ offset id s, (extract language text).get? id = some s → s.span.start < offset → offset < s.span.stop →
        (∀ x ∈ id :: (extract language text).ancestors id, (extract language text).IsOutermost x →
          ∀ other ∈ (extract language text).level ((extract language text).parent? x), other ≠ x →
            (extract language text).Apart x other) →
        id ∈ (extract language text).stackAt offset := by
  obtain ⟨named, orderly⟩ := exists_isOrderly_extract language text
  refine ⟨orderly.ordered, fun offset id => orderly.nested.forest.mem_stackAt, ?_⟩
  intro offset id s here after before apart
  exact orderly.mem_stackAt here ⟨after, before⟩ apart

/-- A struct with two fields. -/
def twoFields : String :=
  "struct S \x7b\n  float x;\n  float y;\n\x7d;"

theorem extract_twoFields : extract .hlsl twoFields =
    ⟨#[⟨⟨"S", "struct", .struct, .between 0 34, .between 7 8⟩, none, [1, 2]⟩,
      ⟨⟨"x", "float", .field, .between 13 21, .between 19 20⟩, some 0, []⟩,
      ⟨⟨"y", "float", .field, .between 24 32, .between 30 31⟩, some 0, []⟩], [0]⟩ := by
  decide +kernel

/-- The fields follow one another, and inside the second one a cursor is said to be at it. -/
theorem stackAt_twoFields :
    (extract .hlsl twoFields).Precedes 1 2 ∧ 2 ∈ (extract .hlsl twoFields).stackAt 28 := by
  obtain ⟨siblings, -, inside⟩ := stackAt_extract .hlsl twoFields
  have above : (extract .hlsl twoFields).parent? 2 = some 0 := by
    rw [extract_twoFields]
    rfl
  rw [extract_twoFields] at siblings inside above ⊢
  constructor
  · have := siblings 0 _ rfl rfl
    simpa [children] using this
  · refine inside 28 2 _ rfl (by decide) (by decide) fun x member outermost other listed different => ?_
    have path : x = 2 ∨ x = 0 := by
      rw [ancestors_of_parent? above (by decide), ancestors] at member
      simpa [parent?] using member
    rcases path with rfl | rfl
    · exact absurd (outermost 0 _ rfl rfl) (by decide)
    · exact absurd (List.mem_singleton.1 listed) different

/-- A struct with a function in it. -/
def functionInStruct : String :=
  "struct S \x7b\n  float x;\n  float get() \x7b return x; \x7d\n\x7d;"

theorem extract_functionInStruct : extract .hlsl functionInStruct =
    ⟨#[⟨⟨"S", "struct", .struct, .between 0 51, .between 7 8⟩, none, [1]⟩,
      ⟨⟨"x", "float", .field, .between 13 21, .between 19 20⟩, some 0, []⟩,
      ⟨⟨"get", "float", .function, .between 24 49, .between 30 33⟩, none, []⟩], [0, 2]⟩ := by
  decide +kernel

/-- The function is a root, too, inside the struct, and a cursor in it is not said to be at it. -/
theorem functionInStruct_is_hidden :
    (¬∀ a ∈ (extract .hlsl functionInStruct).roots, ∀ b ∈ (extract .hlsl functionInStruct).roots, a ≠ b →
      (extract .hlsl functionInStruct).Apart a b) ∧
    ¬∀ offset id s, (extract .hlsl functionInStruct).get? id = some s → s.span.start < offset →
      offset < s.span.stop → id ∈ (extract .hlsl functionInStruct).stackAt offset := by
  rw [extract_functionInStruct]
  constructor
  · intro apart
    have := apart 0 (by decide) 2 (by decide) (by decide) _ _ rfl rfl
    rw [Span.Apart] at this
    exact absurd this (by decide)
  · intro inside
    exact absurd (inside 46 2 _ rfl (by decide) (by decide)) (by decide +kernel)

end Outline

end ShaderAnalysis
