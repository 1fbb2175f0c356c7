import Mathlib.Data.List.Find
import ShaderAnalysis.Proofs.Outline.Growth
import ShaderAnalysis.Proofs.Outline.Stack

/-!
# Types stay visible

What is put into an outline comes last at its level, and nothing that is there changes its place (`Extends`). So a
cursor that is at some symbols stays at them, perhaps with others further inside (`Extends.stackAt`), and what is a type
somewhere stays one there (`IsVisibleType.extends`).
-/

namespace ShaderAnalysis

namespace Outline

variable {t t' t'' : Outline} {offset : Nat} {name : String}

/-- The second outline has the symbols of the first one, except that details can be others, and its levels start with
those of the first one. -/
structure Extends (t t' : Outline) : Prop where
  symbol : ∀ id s, t.get? id = some s → ∃ detail, t'.get? id = some { s with detail }
  level : ∀ parent, t.level parent <+: t'.level parent

theorem Extends.refl (t : Outline) : t.Extends t where
  symbol := fun _ s here => ⟨s.detail, here⟩
  level := fun _ => List.prefix_refl _

theorem Extends.trans (first : t.Extends t') (second : t'.Extends t'') : t.Extends t'' where
  symbol := by
    intro id s here
    obtain ⟨detail, here'⟩ := first.symbol id s here
    obtain ⟨detail', here''⟩ := second.symbol id _ here'
    exact ⟨detail', here''⟩
  level := fun parent => (first.level parent).trans (second.level parent)

theorem extends_push (t : Outline) (parent : Option Nat) (s : Symbol) : t.Extends (t.push parent s).1 where
  symbol := fun _ s' here => ⟨s'.detail, get?_push_of_some here parent s⟩
  level := by
    intro level
    cases level with
    | none =>
      rw [Outline.level, Outline.level, roots_push]
      split
      · exact List.prefix_append _ _
      · exact List.prefix_refl _
    | some id =>
      rw [Outline.level, Outline.level, children_push]
      split
      · exact List.prefix_append _ _
      · exact List.prefix_refl _

theorem extends_setDetail (t : Outline) (id : Nat) (detail : String) : t.Extends (t.setDetail id detail) where
  symbol := by
    intro other s here
    rw [get?_setDetail, here, Option.map_some]
    split
    · exact ⟨detail, rfl⟩
    · exact ⟨s.detail, rfl⟩
  level := by
    intro level
    cases level with
    | none => exact List.prefix_refl _
    | some other =>
      have same : (t.setDetail id detail).level (some other) = t.level (some other) :=
        children_setDetail t id detail other
      exact same ▸ List.prefix_refl _

theorem Grows.extends (grows : t.Grows t') : t.Extends t' := by
  induction grows with
  | refl => exact .refl t
  | push _ parent s ih => exact ih.trans (extends_push _ parent s)
  | setDetail _ id detail ih => exact ih.trans (extends_setDetail _ id detail)

/-! ## The way inwards -/

theorem IsForest.lt_size_of_mem_level (forest : t.IsForest) {parent : Option Nat} {id : Nat}
    (member : id ∈ t.level parent) : id < t.size := by
  cases parent with
  | none => exact (forest.root id member).1
  | some above => exact (forest.child above id member).2.1

theorem Extends.touches (more : t.Extends t') {id : Nat} (inside : id < t.size) :
    t'.touches offset id = t.touches offset id := by
  obtain ⟨s, here⟩ := exists_get? inside
  obtain ⟨detail, here'⟩ := more.symbol id s here
  rw [Outline.touches, Outline.touches, here, here', Option.any_some, Option.any_some]

/-- The first symbol of a level that a cursor is at stays the first one. -/
theorem Extends.find?_touches (more : t.Extends t') (forest : t.IsForest) (parent : Option Nat) {first : Nat}
    (found : (t.level parent).find? (t.touches offset) = some first) :
    (t'.level parent).find? (t'.touches offset) = some first := by
  obtain ⟨later, level⟩ := more.level parent
  have same : (t.level parent).find? (t'.touches offset) = (t.level parent).find? (t.touches offset) :=
    List.find?_congr fun id member => more.touches (forest.lt_size_of_mem_level member)
  rw [← level, List.find?_append, same, found, Option.some_or]

theorem IsForest.stackFrom_eq (forest : t.IsForest) {id child : Nat}
    (found : (t.children id).find? (t.touches offset) = some child) :
    t.stackFrom offset id = id :: t.stackFrom offset child := by
  rw [← forest.descendants_eq] at found
  rw [stackFrom]
  split
  · rename_i none
    cases none.symm.trans found
  · rename_i child' isChild
    cases isChild.symm.trans found
    rfl

theorem Extends.stackFrom (more : t.Extends t') (forest : t.IsForest) (forest' : t'.IsForest) (id : Nat) :
    t.stackFrom offset id <+: t'.stackFrom offset id := by
  fun_induction Outline.stackFrom t offset id with
  | case1 id _ =>
    rw [Outline.stackFrom]
    split
    · exact List.prefix_refl _
    · exact ⟨_, rfl⟩
  | case2 id child found ih =>
    rw [forest.descendants_eq] at found
    rw [forest'.stackFrom_eq (more.find?_touches forest (some id) found)]
    exact List.cons_prefix_cons.2 ⟨rfl, ih⟩

/-- A cursor stays at the symbols that it is at. -/
theorem Extends.stackAt (more : t.Extends t') (forest : t.IsForest) (forest' : t'.IsForest) (offset : Nat) :
    t.stackAt offset <+: t'.stackAt offset := by
  rw [Outline.stackAt]
  split
  · exact List.nil_prefix
  · rename_i root found
    rw [Outline.stackAt, show t'.roots.find? (t'.touches offset) = some root from more.find?_touches forest none found]
    exact more.stackFrom forest forest' root

/-! ## Types -/

/-- A struct or class of this name is right below `level`, or among the roots. -/
def ListsType (t : Outline) (level : Option Nat) (name : String) : Prop :=
  ∃ id ∈ t.level level, ∃ s, t.get? id = some s ∧ s.kind.isType = true ∧ s.name = name

/-- The name is that of a base type, or of a struct or class that is declared at a level around `offset` or in a shared
region of such a level. -/
def IsVisibleType (t : Outline) (offset : Nat) (name : String) : Prop :=
  Hlsl.isRegionBaseType name = true ∨ ∃ level : Option Nat, (∀ id ∈ level, id ∈ t.stackAt offset) ∧
    (t.ListsType level name ∨ ∃ region ∈ t.level level, ∃ r, t.get? region = some r ∧ r.isSharedRegion = true ∧
      t.ListsType (some region) name)

theorem declaresType_iff (level : Option Nat) :
    t.declaresType (t.level level) name = true ↔ t.ListsType level name := by
  simp only [declaresType, ListsType, List.any_eq_true, Option.any_eq_true, Bool.and_eq_true, beq_iff_eq]

theorem levelDeclaresType_iff {level : Option Nat} : t.levelDeclaresType (t.level level) name = true ↔
    t.ListsType level name ∨ ∃ region ∈ t.level level, ∃ r, t.get? region = some r ∧ r.isSharedRegion = true ∧
      t.ListsType (some region) name := by
  have below (region : Nat) : t.declaresType (t.children region) name = true ↔ t.ListsType (some region) name :=
    declaresType_iff (some region)
  simp only [levelDeclaresType, Bool.or_eq_true, declaresType_iff, List.any_eq_true, Bool.and_eq_true,
    Option.any_eq_true, below, ← exists_and_right, and_assoc]

/-- What is a type at a place is one that is visible there. -/
theorem isTypeAt_iff : t.isTypeAt offset name = true ↔ t.IsVisibleType offset name := by
  have levels : ((t.stackAt offset).map t.children ++ [t.roots]).any (fun level => t.levelDeclaresType level name) =
      true ↔ ∃ level : Option Nat, (∀ id ∈ level, id ∈ t.stackAt offset) ∧
        t.levelDeclaresType (t.level level) name = true := by
    rw [List.any_eq_true]
    constructor
    · rintro ⟨level, member, declares⟩
      rcases List.mem_append.1 member with inside | isTop
      · obtain ⟨id, around, rfl⟩ := List.mem_map.1 inside
        exact ⟨some id, fun other is => Option.some.inj is ▸ around, declares⟩
      · rw [List.mem_singleton.1 isTop] at declares
        exact ⟨none, nofun, declares⟩
    · rintro ⟨level, around, declares⟩
      cases level with
      | none => exact ⟨_, List.mem_append_right _ (List.mem_singleton_self _), declares⟩
      | some id => exact ⟨_, List.mem_append_left _ (List.mem_map_of_mem (around id rfl)), declares⟩
  rw [isTypeAt, Bool.or_eq_true, levels, IsVisibleType]
  simp only [levelDeclaresType_iff]

theorem ListsType.extends {level : Option Nat} (lists : t.ListsType level name) (more : t.Extends t') :
    t'.ListsType level name := by
  obtain ⟨id, member, s, here, isType⟩ := lists
  obtain ⟨detail, here'⟩ := more.symbol id s here
  exact ⟨id, (more.level level).subset member, _, here', isType⟩

/-- What is a type at a place stays one. -/
theorem IsVisibleType.extends (visible : t.IsVisibleType offset name) (more : t.Extends t') (forest : t.IsForest)
    (forest' : t'.IsForest) : t'.IsVisibleType offset name := by
  rcases visible with isBase | ⟨level, around, listed⟩
  · exact .inl isBase
  · have stack := more.stackAt forest forest' offset
    refine .inr ⟨level, fun id is => stack.subset (around id is), ?_⟩
    rcases listed with lists | ⟨region, member, r, here, shared, lists⟩
    · exact .inl (lists.extends more)
    · obtain ⟨detail, here'⟩ := more.symbol region r here
      exact .inr ⟨region, (more.level level).subset member, _, here', shared, lists.extends more⟩

end Outline

end ShaderAnalysis
