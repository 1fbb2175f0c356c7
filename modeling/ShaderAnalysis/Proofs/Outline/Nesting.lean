import ShaderAnalysis.Proofs.Outline.Forest

/-!
# Outlines are nested

In an outline that grows below symbols it has, every symbol is listed once: where its parent says, and behind
the symbols that were there before it. Clamping keeps the span of a symbol inside the span of its parent, and
its name inside its own. Preorder is then an order of all symbols (`preorder_perm`) with parents before
their children (`pair_sublist_preorder`) and each level as it is listed (`level_sublist_preorder`).
-/

namespace ShaderAnalysis

namespace Outline

variable {t : Outline}

theorem level_push (t : Outline) (parent : Option Nat) (s : Symbol) (known : ∀ id ∈ parent, id < t.size)
    (place : Option Nat) :
    (t.push parent s).1.level place = if parent = place then t.level place ++ [t.size] else t.level place := by
  cases place with
  | none => exact roots_push t parent s
  | some above =>
    rw [level, children_push]
    by_cases here : parent = some above
    · rw [if_pos ⟨here, known above here⟩, if_pos here]
      rfl
    · rw [if_neg fun h => here h.1, if_neg here]
      rfl

@[simp] theorem level_setDetail (t : Outline) (id : Nat) (detail : String) (place : Option Nat) :
    (t.setDetail id detail).level place = t.level place := by
  cases place with
  | none => rfl
  | some above => exact children_setDetail t id detail above

/-- What is put below a symbol lies inside it, and its name inside it. -/
theorem fit_covers (t : Outline) (parent : Option Nat) (s : Symbol) :
    (t.fit parent s).span.covers (t.fit parent s).selection = true :=
  Span.covers_clampTo ..

theorem fit_below {above : Nat} {outer : Symbol} (known : t.get? above = some outer) (s : Symbol) :
    outer.span.covers (t.fit (some above) s).span = true := by
  simp only [fit, Option.bind_some, known]
  exact Span.covers_clampTo ..

/-- Symbols are listed where they belong and in the order in which they came, and spans are nested. -/
structure IsNested (t : Outline) : Prop where
  forest : t.IsForest
  listed : ∀ id < t.size, id ∈ t.level (t.parent? id)
  ascending : ∀ place, (t.level place).Pairwise (· < ·)
  selection : ∀ id s, t.get? id = some s → s.span.covers s.selection = true
  child : ∀ id s above, t.get? id = some s → t.parent? id = some above →
    ∃ outer, t.get? above = some outer ∧ outer.span.covers s.span = true

theorem isNested_empty : empty.IsNested where
  forest := isForest_empty
  listed := fun id less => absurd less (Nat.not_lt_zero id)
  ascending := by
    intro place
    cases place <;> exact List.Pairwise.nil
  selection := by
    intro id s here
    cases here
  child := by
    intro id s above here
    cases here

theorem IsForest.lt_of_mem_level (forest : t.IsForest) {place : Option Nat} {id : Nat} (h : id ∈ t.level place) :
    id < t.size ∧ t.parent? id = place := by
  cases place with
  | none => exact forest.root id h
  | some above => exact (forest.child above id h).2

theorem IsNested.push (nested : t.IsNested) {parent : Option Nat} (known : ∀ id ∈ parent, id < t.size) (s : Symbol) :
    (t.push parent s).1.IsNested where
  forest := nested.forest.push parent s
  listed := by
    intro id less
    rw [size_push] at less
    rw [parent?_push, level_push t parent s known]
    by_cases new : id = t.size
    · rw [if_pos new, if_pos rfl, new]
      exact List.mem_append_right _ (List.mem_singleton.2 rfl)
    · rw [if_neg new]
      have old := nested.listed id (by omega)
      split
      · exact List.mem_append_left _ old
      · exact old
  ascending := by
    intro place
    rw [level_push t parent s known]
    split
    · refine List.pairwise_append.2 ⟨nested.ascending place, List.pairwise_singleton _ _, ?_⟩
      intro id member last isLast
      rw [List.mem_singleton.1 isLast]
      exact (nested.forest.lt_of_mem_level member).1
    · exact nested.ascending place
  selection := by
    intro id symbol here
    rw [get?_push] at here
    split at here
    · cases here
      exact fit_covers t parent s
    · exact nested.selection id symbol here
  child := by
    intro id symbol above here knows
    rw [parent?_push] at knows
    rw [get?_push] at here
    have outerOf (old : above < t.size) : (t.push parent s).1.get? above = t.get? above := by
      rw [get?_push, if_neg (Nat.ne_of_lt old)]
    split at here
    · rename_i new
      cases here
      rw [if_pos new] at knows
      subst knows
      have old := known above rfl
      obtain ⟨outer, isOuter⟩ := exists_get? old
      exact ⟨outer, (outerOf old).trans isOuter, fit_below isOuter s⟩
    · rename_i old
      rw [if_neg old] at knows
      obtain ⟨outer, isOuter, covers⟩ := nested.child id symbol above here knows
      exact ⟨outer, (outerOf (lt_of_get? isOuter)).trans isOuter, covers⟩

theorem IsNested.setDetail (nested : t.IsNested) (id : Nat) (detail : String) : (t.setDetail id detail).IsNested where
  forest := nested.forest.setDetail id detail
  listed := by simpa using nested.listed
  ascending := by simpa using nested.ascending
  selection := by
    intro other s here
    rw [get?_setDetail] at here
    obtain ⟨old, isOld, rfl⟩ := Option.map_eq_some_iff.1 here
    have covers := nested.selection other old isOld
    split <;> exact covers
  child := by
    intro other s above here knows
    rw [get?_setDetail] at here
    rw [parent?_setDetail] at knows
    obtain ⟨old, isOld, rfl⟩ := Option.map_eq_some_iff.1 here
    obtain ⟨outer, isOuter, covers⟩ := nested.child other old above isOld knows
    refine ⟨_, by rw [get?_setDetail, isOuter, Option.map_some], ?_⟩
    split <;> split <;> exact covers

/-! ## Places -/

/-- A symbol is listed at one place, its own, and there once. -/
theorem IsNested.count_level (nested : t.IsNested) (place : Option Nat) (id : Nat) :
    (t.level place).count id = if id < t.size ∧ t.parent? id = place then 1 else 0 := by
  have nodup : (t.level place).Nodup := (nested.ascending place).imp Nat.ne_of_lt
  split
  · rename_i here
    exact List.count_eq_one_of_mem nodup (here.2 ▸ nested.listed id here.1)
  · rename_i elsewhere
    exact List.count_eq_zero.2 fun member => elsewhere (nested.forest.lt_of_mem_level member)

/-! ## Preorder -/

theorem self_mem_preorderBelow (t : Outline) (id : Nat) : id ∈ t.preorderBelow id := by
  rw [preorderBelow_eq]
  exact List.mem_cons_self

theorem preorderBelow_sublist_of_mem_descendants {id child : Nat} (h : child ∈ t.descendants id) :
    (t.preorderBelow child).Sublist (t.preorderBelow id).tail := by
  rw [preorderBelow_eq t id, List.tail_cons]
  exact List.sublist_flatten_of_mem (List.mem_map_of_mem h)

/-- What is visited below something that is visited is visited with it. -/
theorem preorderBelow_sublist {top id : Nat} (h : id ∈ t.preorderBelow top) :
    (t.preorderBelow id).Sublist (t.preorderBelow top) := by
  induction top using preorderBelow.induct t with
  | case1 top ih =>
    have visited := h
    rw [preorderBelow_eq] at visited
    rcases List.mem_cons.1 visited with rfl | below
    · exact List.Sublist.refl _
    · obtain ⟨child, member, inside⟩ := List.mem_flatMap.1 below
      have ofChild := preorderBelow_sublist_of_mem_descendants member
      exact (ih ⟨child, member⟩ inside).trans (ofChild.trans (List.tail_sublist _))

theorem preorderBelow_sublist_preorder {id : Nat} (h : id ∈ t.preorder) :
    (t.preorderBelow id).Sublist t.preorder := by
  rw [preorder_eq_flatMap] at h ⊢
  obtain ⟨root, member, inside⟩ := List.mem_flatMap.1 h
  exact (preorderBelow_sublist inside).trans (List.sublist_flatten_of_mem (List.mem_map_of_mem member))

/-- A list is part of what is visited from its members, in its order. -/
theorem sublist_flatMap_preorderBelow (t : Outline) (ids : List Nat) : ids.Sublist (ids.flatMap t.preorderBelow) := by
  induction ids with
  | nil => exact List.Sublist.refl _
  | cons id ids ih =>
    rw [List.flatMap_cons, preorderBelow_eq, List.cons_append]
    exact (ih.trans (List.sublist_append_right ..)).cons_cons id

section

variable (nested : t.IsNested)

include nested

theorem IsNested.mem_preorder {id : Nat} (h : id < t.size) : id ∈ t.preorder := by
  induction id using Nat.strongRecOn with
  | ind id ih =>
    have listed := nested.listed id h
    cases above : t.parent? id with
    | none =>
      rw [above] at listed
      rw [preorder_eq_flatMap]
      exact List.mem_flatMap.2 ⟨id, listed, self_mem_preorderBelow t id⟩
    | some parent =>
      rw [above] at listed
      have child := nested.forest.mem_descendants_iff.2 listed
      have later := mem_descendants child
      have visited := preorderBelow_sublist_preorder (ih parent later.1 (by omega))
      have below := (preorderBelow_sublist_of_mem_descendants child).trans (List.tail_sublist _)
      exact visited.subset (below.subset (self_mem_preorderBelow t id))

omit nested in
theorem IsForest.lt_of_mem_preorder (forest : t.IsForest) {id : Nat} (h : id ∈ t.preorder) : id < t.size := by
  rw [preorder_eq_flatMap] at h
  obtain ⟨root, member, inside⟩ := List.mem_flatMap.1 h
  cases knows : t.parent? id with
  | some above => exact lt_of_parent? knows
  | none =>
    have top := forest.mem_ancestors_of_mem_preorderBelow inside
    rw [ancestors, knows] at top
    rw [← List.mem_singleton.1 top]
    exact (forest.root root member).1

/-- Preorder visits every symbol once. -/
theorem IsNested.preorder_perm : t.preorder.Perm (List.range t.size) := by
  refine (List.perm_ext_iff_of_nodup nested.forest.nodup_preorder List.nodup_range).2 fun id => ?_
  rw [List.mem_range]
  exact ⟨nested.forest.lt_of_mem_preorder, nested.mem_preorder⟩

/-- Preorder has a symbol before its children. -/
theorem IsNested.pair_sublist_preorder {id above : Nat} (h : t.parent? id = some above) :
    [above, id].Sublist t.preorder := by
  have listed := nested.listed id (lt_of_parent? h)
  rw [h] at listed
  have child := nested.forest.mem_descendants_iff.2 listed
  have later := mem_descendants child
  have visited := preorderBelow_sublist_preorder (nested.mem_preorder (Nat.lt_trans later.1 later.2))
  refine List.Sublist.trans ?_ visited
  have below := (preorderBelow_sublist_of_mem_descendants child).subset (self_mem_preorderBelow t id)
  rw [preorderBelow_eq] at below ⊢
  exact (List.singleton_sublist.2 below).cons_cons above

/-- Preorder has the symbols of a level in the order in which they are listed. -/
theorem IsNested.level_sublist_preorder (place : Option Nat) : (t.level place).Sublist t.preorder := by
  cases place with
  | none =>
    rw [preorder_eq_flatMap]
    exact sublist_flatMap_preorderBelow t t.roots
  | some above =>
    rcases Nat.lt_or_ge above t.size with less | more
    · have same : t.descendants above = t.children above := by
        rw [descendants, List.filter_eq_self]
        intro child member
        obtain ⟨later, inside, -⟩ := nested.forest.child above child member
        simp [later, inside]
      have visited := preorderBelow_sublist_preorder (nested.mem_preorder less)
      refine List.Sublist.trans ?_ visited
      rw [preorderBelow_eq, same]
      exact (sublist_flatMap_preorderBelow t (t.children above)).trans (List.sublist_cons_self ..)
    · rw [level, children_of_le more]
      exact List.nil_sublist _

end

end Outline

end ShaderAnalysis
