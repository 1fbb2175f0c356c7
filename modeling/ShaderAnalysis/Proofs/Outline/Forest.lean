import Mathlib.Data.List.Nodup
import ShaderAnalysis.Outline.Basic

/-!
# Outlines are forests

An outline that only grows by `push` is a forest: what is listed below a symbol comes later in the arena
and has that symbol as its parent, roots have none, and nothing is listed twice. The path of parents above a
symbol is unique, so preorder visits no symbol twice (`nodup_preorder`).
-/

namespace ShaderAnalysis

namespace Outline

variable {t : Outline}

/-! ## Looking into an outline that has grown -/

theorem size_push (t : Outline) (parent : Option Nat) (s : Symbol) : (t.push parent s).1.size = t.size + 1 := by
  cases parent <;> simp [push, size]

theorem roots_push (t : Outline) (parent : Option Nat) (s : Symbol) :
    (t.push parent s).1.roots = if parent = none then t.roots ++ [t.size] else t.roots := by
  cases parent <;> rfl

theorem parent?_push (t : Outline) (parent : Option Nat) (s : Symbol) (id : Nat) :
    (t.push parent s).1.parent? id = if id = t.size then parent else t.parent? id := by
  by_cases new : id = t.size
  · have here : id = t.nodes.size := new
    rw [if_pos new]
    cases parent with
    | none =>
      simp only [push, parent?, Array.getElem?_push, if_pos here]
      rfl
    | some above =>
      simp only [push, parent?, Array.getElem?_push, Array.size_modify, if_pos here]
      rfl
  · have elsewhere : id ≠ t.nodes.size := new
    rw [if_neg new]
    cases parent with
    | none => simp only [push, parent?, Array.getElem?_push, if_neg elsewhere]
    | some above =>
      simp only [push, parent?, Array.getElem?_push, Array.size_modify, if_neg elsewhere, Array.getElem?_modify]
      split
      · rw [Option.bind_map]
        rfl
      · rfl

theorem get?_push (t : Outline) (parent : Option Nat) (s : Symbol) (id : Nat) :
    (t.push parent s).1.get? id = if id = t.size then some (t.fit parent s) else t.get? id := by
  by_cases new : id = t.size
  · have here : id = t.nodes.size := new
    rw [if_pos new]
    cases parent with
    | none => simp only [push, get?, Array.getElem?_push, if_pos here, Option.map_some]
    | some above => simp only [push, get?, Array.getElem?_push, Array.size_modify, if_pos here, Option.map_some]
  · have elsewhere : id ≠ t.nodes.size := new
    rw [if_neg new]
    cases parent with
    | none => simp only [push, get?, Array.getElem?_push, if_neg elsewhere]
    | some above =>
      simp only [push, get?, Array.getElem?_push, Array.size_modify, if_neg elsewhere, Array.getElem?_modify]
      split
      · rw [Option.map_map]
        rfl
      · rfl

theorem lt_of_get? {id : Nat} {s : Symbol} (h : t.get? id = some s) : id < t.size := by
  obtain ⟨node, here, -⟩ := Option.map_eq_some_iff.1 h
  exact (Array.getElem?_eq_some_iff.1 here).1

theorem exists_get? {id : Nat} (h : id < t.size) : ∃ s, t.get? id = some s :=
  ⟨t.nodes[id].symbol, by rw [get?, Array.getElem?_eq_getElem h, Option.map_some]⟩

theorem lt_of_parent? {id above : Nat} (h : t.parent? id = some above) : id < t.size := by
  obtain ⟨node, here, -⟩ := Option.bind_eq_some_iff.1 h
  exact (Array.getElem?_eq_some_iff.1 here).1

theorem children_of_le {id : Nat} (h : t.size ≤ id) : t.children id = [] := by
  rw [children, Array.getElem?_eq_none (by exact h)]
  rfl

theorem children_push (t : Outline) (parent : Option Nat) (s : Symbol) (id : Nat) :
    (t.push parent s).1.children id =
      if parent = some id ∧ id < t.size then t.children id ++ [t.size] else t.children id := by
  rcases Nat.lt_trichotomy id t.size with less | same | more
  · cases parent with
    | none =>
      have other : id ≠ t.nodes.size := Nat.ne_of_lt less
      simp only [push, children, Array.getElem?_push, if_neg other]
      rw [if_neg (fun h => by cases h.1)]
    | some above =>
      have other : id ≠ t.nodes.size := Nat.ne_of_lt less
      have here : t.nodes[id]? = some t.nodes[id] := Array.getElem?_eq_getElem (by exact less)
      simp only [push, children, Array.getElem?_push, Array.size_modify, if_neg other, Array.getElem?_modify, here,
        Option.some.injEq, less, and_true, Option.map_some, Option.getD_some]
      split <;> rfl
  · have here : id = t.nodes.size := same
    rw [if_neg (by omega), children_of_le (Nat.le_of_eq same.symm)]
    cases parent with
    | none =>
      simp only [push, children, Array.getElem?_push, if_pos here]
      rfl
    | some above =>
      simp only [push, children, Array.getElem?_push, Array.size_modify, if_pos here]
      rfl
  · rw [if_neg (by omega), children_of_le (Nat.le_of_lt more), children_of_le]
    rw [size_push]
    omega

section

variable (t) (id : Nat) (detail : String)

@[simp] theorem size_setDetail : (t.setDetail id detail).size = t.size := by
  simp [setDetail, size]

@[simp] theorem roots_setDetail : (t.setDetail id detail).roots = t.roots := rfl

theorem get?_setDetail (other : Nat) : (t.setDetail id detail).get? other =
    (t.get? other).map fun s => if id = other then { s with detail := detail } else s := by
  simp only [setDetail, get?, Array.getElem?_modify, Option.map_map]
  split
  · rw [Option.map_map]
    rfl
  · rfl

@[simp] theorem parent?_setDetail (other : Nat) : (t.setDetail id detail).parent? other = t.parent? other := by
  simp only [setDetail, parent?, Array.getElem?_modify]
  split
  · rw [Option.bind_map]
    rfl
  · rfl

@[simp] theorem children_setDetail (other : Nat) : (t.setDetail id detail).children other = t.children other := by
  simp only [setDetail, children, Array.getElem?_modify]
  split
  · rw [Option.map_map]
    rfl
  · rfl

end

/-! ## Forests -/

/-- Children come later than their parents and know them, roots have no parents, and no symbol is listed
twice in one place. -/
structure IsForest (t : Outline) : Prop where
  root : ∀ id ∈ t.roots, id < t.size ∧ t.parent? id = none
  child : ∀ id, ∀ child ∈ t.children id, id < child ∧ child < t.size ∧ t.parent? child = some id
  nodup_roots : t.roots.Nodup
  nodup_children : ∀ id, (t.children id).Nodup

theorem isForest_empty : empty.IsForest where
  root := by
    intro id member
    cases member
  child := by
    intro id child member
    cases member
  nodup_roots := List.nodup_nil
  nodup_children := fun _ => List.nodup_nil

theorem nodup_append_size {l : List Nat} (nodup : l.Nodup) (below : ∀ id ∈ l, id < t.size) : (l ++ [t.size]).Nodup := by
  refine List.nodup_append.2 ⟨nodup, by simp, ?_⟩
  intro id member other same
  have := below id member
  have := List.mem_singleton.1 same
  omega

theorem IsForest.push (forest : t.IsForest) (parent : Option Nat) (s : Symbol) : (t.push parent s).1.IsForest where
  root := by
    intro id member
    rw [size_push, parent?_push]
    rw [roots_push] at member
    split at member
    · rename_i isRoot
      rcases List.mem_append.1 member with old | new
      · obtain ⟨less, root⟩ := forest.root id old
        exact ⟨by omega, by rw [if_neg (by omega), root]⟩
      · have same := List.mem_singleton.1 new
        exact ⟨by omega, by rw [if_pos same, isRoot]⟩
    · obtain ⟨less, root⟩ := forest.root id member
      exact ⟨by omega, by rw [if_neg (by omega), root]⟩
  child := by
    intro id child member
    rw [size_push, parent?_push]
    rw [children_push] at member
    have ofOld (old : child ∈ t.children id) :
        id < child ∧ child < t.size + 1 ∧ (if child = t.size then parent else t.parent? child) = some id := by
      obtain ⟨later, less, knows⟩ := forest.child id child old
      exact ⟨later, by omega, by rw [if_neg (by omega), knows]⟩
    split at member
    · rename_i here
      rcases List.mem_append.1 member with old | new
      · exact ofOld old
      · have same := List.mem_singleton.1 new
        exact ⟨by omega, by omega, by rw [if_pos same, here.1]⟩
    · exact ofOld member
  nodup_roots := by
    rw [roots_push]
    split
    · exact nodup_append_size forest.nodup_roots fun id member => (forest.root id member).1
    · exact forest.nodup_roots
  nodup_children := by
    intro id
    rw [children_push]
    split
    · exact nodup_append_size (forest.nodup_children id) fun child member => (forest.child id child member).2.1
    · exact forest.nodup_children id

theorem IsForest.setDetail (forest : t.IsForest) (id : Nat) (detail : String) : (t.setDetail id detail).IsForest where
  root := by simpa using forest.root
  child := by simpa using forest.child
  nodup_roots := forest.nodup_roots
  nodup_children := by simpa using forest.nodup_children

/-! ## The symbols above a symbol -/

theorem ancestors_of_parent? {above id : Nat} (knows : t.parent? id = some above) (later : above < id) :
    t.ancestors id = above :: t.ancestors above := by
  rw [ancestors, knows]
  simp only [if_pos later]

theorem exists_parent?_of_mem_ancestors {above id : Nat} (h : above ∈ t.ancestors id) :
    ∃ parent, t.parent? id = some parent ∧ parent < id ∧ above ∈ parent :: t.ancestors parent := by
  rw [ancestors] at h
  split at h
  · cases h
  · rename_i parent knows
    split at h
    · rename_i later
      exact ⟨parent, knows, later, h⟩
    · cases h

theorem lt_of_mem_ancestors {above id : Nat} (h : above ∈ t.ancestors id) : above < id := by
  induction id using Nat.strongRecOn with
  | ind id ih =>
    obtain ⟨parent, -, later, member⟩ := exists_parent?_of_mem_ancestors h
    rcases List.mem_cons.1 member with rfl | further
    · exact later
    · exact Nat.lt_trans (ih parent later further) later

theorem mem_ancestors_trans {top above id : Nat} (h : above ∈ t.ancestors id) (top_above : top ∈ t.ancestors above) :
    top ∈ t.ancestors id := by
  induction id using Nat.strongRecOn with
  | ind id ih =>
    obtain ⟨parent, knows, later, member⟩ := exists_parent?_of_mem_ancestors h
    rw [ancestors_of_parent? knows later]
    rcases List.mem_cons.1 member with rfl | further
    · exact List.mem_cons_of_mem _ top_above
    · exact List.mem_cons_of_mem _ (ih parent later further)

/-- Of two symbols above a third one, one is above the other. -/
theorem mem_ancestors_or {a b id : Nat} (ha : a ∈ id :: t.ancestors id) (hb : b ∈ id :: t.ancestors id) :
    a = b ∨ a ∈ t.ancestors b ∨ b ∈ t.ancestors a := by
  induction id using Nat.strongRecOn with
  | ind id ih =>
    rcases List.mem_cons.1 ha with rfl | aAbove
    · rcases List.mem_cons.1 hb with rfl | bAbove
      · exact .inl rfl
      · exact .inr (.inr bAbove)
    · rcases List.mem_cons.1 hb with rfl | bAbove
      · exact .inr (.inl aAbove)
      · obtain ⟨parent, knows, later, member⟩ := exists_parent?_of_mem_ancestors aAbove
        rw [ancestors_of_parent? knows later] at bAbove
        exact ih parent later member bAbove

/-- No two symbols with the same parent are above one another. -/
theorem not_mem_ancestors {a b : Nat} (same : t.parent? a = t.parent? b)
    (later : ∀ parent, t.parent? a = some parent → parent < a) : a ∉ t.ancestors b := by
  intro above
  obtain ⟨parent, knows, -, member⟩ := exists_parent?_of_mem_ancestors above
  have less := later parent (same.trans knows)
  rcases List.mem_cons.1 member with rfl | further
  · omega
  · have := lt_of_mem_ancestors further
    omega

/-! ## Preorder -/

section

variable (forest : t.IsForest)

include forest

theorem IsForest.mem_descendants_iff {id child : Nat} : child ∈ t.descendants id ↔ child ∈ t.children id := by
  rw [descendants, List.mem_filter]
  constructor
  · exact And.left
  · intro member
    obtain ⟨later, less, -⟩ := forest.child id child member
    exact ⟨member, by simp [later, less]⟩

/-- What is visited below a symbol is that symbol, or has it above. -/
theorem IsForest.mem_ancestors_of_mem_preorderBelow {id x : Nat} (h : x ∈ t.preorderBelow id) :
    id ∈ x :: t.ancestors x := by
  induction id using preorderBelow.induct t with
  | case1 id ih =>
    rw [preorderBelow] at h
    rcases List.mem_cons.1 h with rfl | below
    · exact List.mem_cons_self
    · obtain ⟨visited, member, inside⟩ := List.mem_flatten.1 below
      obtain ⟨child, -, rfl⟩ := List.mem_map.1 member
      obtain ⟨later, -, knows⟩ := forest.child id child.1 (forest.mem_descendants_iff.1 child.2)
      have id_above : id ∈ t.ancestors child.1 := by
        rw [ancestors_of_parent? knows later]
        exact List.mem_cons_self
      rcases List.mem_cons.1 (ih child inside) with rfl | above
      · exact List.mem_cons_of_mem _ id_above
      · exact List.mem_cons_of_mem _ (mem_ancestors_trans above id_above)

/-- What is visited below two different symbols with the same parent is different. -/
theorem IsForest.disjoint_preorderBelow {a b : Nat} (different : a ≠ b) (same : t.parent? a = t.parent? b)
    (later : ∀ parent, t.parent? a = some parent → parent < a ∧ parent < b) :
    List.Disjoint (t.preorderBelow a) (t.preorderBelow b) := by
  intro x inA inB
  have aAbove := forest.mem_ancestors_of_mem_preorderBelow inA
  have bAbove := forest.mem_ancestors_of_mem_preorderBelow inB
  rcases mem_ancestors_or aAbove bAbove with equal | above | above
  · exact different equal
  · exact not_mem_ancestors same (fun parent knows => (later parent knows).1) above
  · exact not_mem_ancestors same.symm (fun parent knows => (later parent (same.trans knows)).2) above

theorem IsForest.nodup_preorderBelow (id : Nat) : (t.preorderBelow id).Nodup := by
  induction id using preorderBelow.induct t with
  | case1 id ih =>
    rw [preorderBelow, List.nodup_cons]
    constructor
    · intro member
      obtain ⟨visited, member, inside⟩ := List.mem_flatten.1 member
      obtain ⟨child, -, rfl⟩ := List.mem_map.1 member
      have later := (mem_descendants child.2).1
      rcases List.mem_cons.1 (forest.mem_ancestors_of_mem_preorderBelow inside) with same | above
      · omega
      · have := lt_of_mem_ancestors above
        omega
    · rw [List.nodup_flatten]
      constructor
      · intro visited member
        obtain ⟨child, -, rfl⟩ := List.mem_map.1 member
        exact ih child
      · rw [List.pairwise_map]
        have nodup : (t.descendants id).attach.Nodup :=
          List.nodup_attach.2 ((forest.nodup_children id).sublist List.filter_sublist)
        refine nodup.imp_of_mem ?_
        intro a b _ _ different
        obtain ⟨laterA, -, knowsA⟩ := forest.child id a.1 (forest.mem_descendants_iff.1 a.2)
        obtain ⟨laterB, -, knowsB⟩ := forest.child id b.1 (forest.mem_descendants_iff.1 b.2)
        apply forest.disjoint_preorderBelow (fun same => different (Subtype.ext same)) (knowsA.trans knowsB.symm)
        intro parent knows
        cases knowsA.symm.trans knows
        exact ⟨laterA, laterB⟩

/-- Preorder visits no symbol twice. -/
theorem IsForest.nodup_preorder : t.preorder.Nodup := by
  rw [preorder_eq_flatMap, List.nodup_flatMap]
  refine ⟨fun id _ => forest.nodup_preorderBelow id, ?_⟩
  refine forest.nodup_roots.imp_of_mem ?_
  intro a b memberA memberB different
  have rootA := (forest.root a memberA).2
  have rootB := (forest.root b memberB).2
  apply forest.disjoint_preorderBelow different (rootA.trans rootB.symm)
  intro parent knows
  cases rootA.symm.trans knows

end

end Outline

end ShaderAnalysis
