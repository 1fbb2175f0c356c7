import Mathlib.Data.List.Nodup
import ShaderAnalysis.Workspace.Analysis

/-!
# Depth-first search

What the recursive search of a graph of includes visits, and at which depth: the files that a document
includes in their order, each with what it leads to before the next one, and none that has been visited. The
search visits what can be reached, each file once (`Search.mem_iff_reaches`, `Search.nodup`). It is the
measure for the walk that keeps its own stack.
-/

namespace ShaderAnalysis

/-- Documents that include others: which file a path stands for, what is loaded from there, and the paths
that a document includes in order. -/
structure IncludeGraph where
  file : Path → FileId
  load : Path → Option Analysis
  children : Analysis → List Path

namespace IncludeGraph

/-- The search of these paths visits `order`, each document with its depth, and leaves the last list of
visited files. A file that cannot be loaded is visited but leads nowhere. -/
inductive Search (g : IncludeGraph) : List FileId → Nat → List Path → List (Analysis × Nat) → List FileId → Prop where
  | done (visited : List FileId) (depth : Nat) : Search g visited depth [] [] visited
  | seen {visited after : List FileId} {depth : Nat} {p : Path} {ps : List Path} {order : List (Analysis × Nat)}
      (isSeen : g.file p ∈ visited) (rest : Search g visited depth ps order after) :
      Search g visited depth (p :: ps) order after
  | missing {visited after : List FileId} {depth : Nat} {p : Path} {ps : List Path} {order : List (Analysis × Nat)}
      (isNew : g.file p ∉ visited) (unloaded : g.load p = none)
      (rest : Search g (g.file p :: visited) depth ps order after) : Search g visited depth (p :: ps) order after
  | enter {visited between after : List FileId} {depth : Nat} {p : Path} {ps : List Path} {a : Analysis}
      {inner order : List (Analysis × Nat)} (isNew : g.file p ∉ visited) (loaded : g.load p = some a)
      (below : Search g (g.file p :: visited) (depth + 1) (g.children a) inner between)
      (rest : Search g between depth ps order after) :
      Search g visited depth (p :: ps) ((a, depth) :: (inner ++ order)) after

/-- The documents that can be reached from `start`. An include of the file of `start` leads nowhere else. -/
inductive Reaches (g : IncludeGraph) (start : Analysis) : Analysis → Prop where
  | start : Reaches g start start
  | step {a b : Analysis} {p : Path} (reached : Reaches g start a) (included : p ∈ g.children a)
      (elsewhere : g.file p ≠ start.file) (loaded : g.load p = some b) : Reaches g start b

/-- Some document includes the path. -/
def IsIncluded (g : IncludeGraph) (p : Path) : Prop :=
  ∃ a, p ∈ g.children a

/-- An included file is loaded as the file that it is, under whatever path. -/
structure IsCoherent (g : IncludeGraph) : Prop where
  file_load : ∀ p a, g.IsIncluded p → g.load p = some a → a.file = g.file p
  load_eq : ∀ p q, g.IsIncluded p → g.IsIncluded q → g.file p = g.file q → g.load p = g.load q

namespace Search

variable {g : IncludeGraph} {visited after : List FileId} {depth : Nat} {ps : List Path}
  {order : List (Analysis × Nat)}

/-- There is one way to search. -/
theorem unique (h : g.Search visited depth ps order after) {order' : List (Analysis × Nat)} {after' : List FileId}
    (h' : g.Search visited depth ps order' after') : order = order' ∧ after = after' := by
  induction h generalizing order' after' with
  | done =>
    cases h'
    exact ⟨rfl, rfl⟩
  | seen isSeen _ ih =>
    cases h' with
    | seen _ rest => exact ih rest
    | missing isNew => exact absurd isSeen isNew
    | enter isNew => exact absurd isSeen isNew
  | missing isNew unloaded _ ih =>
    cases h' with
    | seen isSeen => exact absurd isSeen isNew
    | missing _ _ rest => exact ih rest
    | enter _ loaded => cases unloaded.symm.trans loaded
  | enter isNew loaded _ _ ihBelow ihRest =>
    cases h' with
    | seen isSeen => exact absurd isSeen isNew
    | missing _ unloaded => cases unloaded.symm.trans loaded
    | enter _ loaded' below rest =>
      cases loaded.symm.trans loaded'
      obtain ⟨rfl, rfl⟩ := ihBelow below
      obtain ⟨rfl, rfl⟩ := ihRest rest
      exact ⟨rfl, rfl⟩

theorem visited_subset (h : g.Search visited depth ps order after) : visited ⊆ after := by
  induction h with
  | done => exact List.Subset.refl _
  | seen _ _ ih => exact ih
  | missing _ _ _ ih => exact List.Subset.trans (List.subset_cons_self ..) ih
  | enter _ _ _ _ ihBelow ihRest =>
    have entered := List.Subset.trans (List.subset_cons_self ..) ihBelow
    exact List.Subset.trans entered ihRest

/-- One path after the other is searched. -/
theorem cons {p : Path} {first : List (Analysis × Nat)} {between : List FileId}
    (h : g.Search visited depth [p] first between) (rest : g.Search between depth ps order after) :
    g.Search visited depth (p :: ps) (first ++ order) after := by
  cases h with
  | seen isSeen last =>
    cases last
    exact .seen isSeen rest
  | missing isNew unloaded last =>
    cases last
    exact .missing isNew unloaded rest
  | enter isNew loaded below last =>
    cases last
    rw [List.append_nil]
    exact .enter isNew loaded below rest

/-! ## What is visited -/

/-- What is visited had not been visited before, and has been afterwards. -/
theorem file_mem (coherent : g.IsCoherent) (h : g.Search visited depth ps order after)
    (included : ∀ p ∈ ps, g.IsIncluded p) : ∀ x ∈ order, x.1.file ∉ visited ∧ x.1.file ∈ after := by
  induction h with
  | done => exact List.forall_mem_nil _
  | seen _ _ ih => exact ih (List.forall_mem_cons.1 included).2
  | missing _ _ _ ih =>
    intro x member
    obtain ⟨isNew, isAfter⟩ := ih (List.forall_mem_cons.1 included).2 x member
    exact ⟨fun before => isNew (List.mem_cons_of_mem _ before), isAfter⟩
  | @enter visited between after depth p ps a inner order isNew loaded below rest ihBelow ihRest =>
    obtain ⟨here, later⟩ := List.forall_mem_cons.1 included
    have file : a.file = g.file p := coherent.file_load p a here loaded
    refine List.forall_mem_cons.2 ⟨?_, List.forall_mem_append.2 ⟨?_, ?_⟩⟩
    · rw [file]
      exact ⟨isNew, rest.visited_subset (below.visited_subset List.mem_cons_self)⟩
    · intro x isIn
      obtain ⟨isNewInner, isBetween⟩ := ihBelow (fun q member => ⟨a, member⟩) x isIn
      exact ⟨fun before => isNewInner (List.mem_cons_of_mem _ before), rest.visited_subset isBetween⟩
    · intro x isIn
      obtain ⟨isNewOrder, isAfter⟩ := ihRest later x isIn
      exact ⟨fun before => isNewOrder (below.visited_subset (List.mem_cons_of_mem _ before)), isAfter⟩

/-- No file is visited twice. -/
theorem nodup (coherent : g.IsCoherent) (h : g.Search visited depth ps order after)
    (included : ∀ p ∈ ps, g.IsIncluded p) : (order.map (·.1.file)).Nodup := by
  induction h with
  | done => exact List.nodup_nil
  | seen _ _ ih => exact ih (List.forall_mem_cons.1 included).2
  | missing _ _ _ ih => exact ih (List.forall_mem_cons.1 included).2
  | @enter visited between after depth p ps a inner order isNew loaded below rest ihBelow ihRest =>
    obtain ⟨here, later⟩ := List.forall_mem_cons.1 included
    have insideIncluded : ∀ q ∈ g.children a, g.IsIncluded q := fun q member => ⟨a, member⟩
    have inside := below.file_mem coherent insideIncluded
    have behind := rest.file_mem coherent later
    have file : a.file = g.file p := coherent.file_load p a here loaded
    have entered : a.file ∈ between := below.visited_subset (by rw [file]; exact List.mem_cons_self)
    rw [List.map_cons, List.map_append, List.nodup_cons, List.nodup_append]
    refine ⟨?_, ihBelow insideIncluded, ihRest later, ?_⟩
    · rw [List.mem_append, not_or, List.mem_map, List.mem_map]
      constructor
      · rintro ⟨x, isIn, same⟩
        apply (inside x isIn).1
        rw [same, file]
        exact List.mem_cons_self
      · rintro ⟨x, isIn, same⟩
        apply (behind x isIn).1
        rw [same]
        exact entered
    · intro f inInner f' inOrder same
      obtain ⟨x, isIn, rfl⟩ := List.mem_map.1 inInner
      obtain ⟨y, isIn', rfl⟩ := List.mem_map.1 inOrder
      apply (behind y isIn').1
      rw [← same]
      exact (inside x isIn).2

/-- What is visited can be reached. -/
theorem reaches {start : Analysis} (h : g.Search visited depth ps order after) (started : start.file ∈ visited)
    (from_ : ∀ p ∈ ps, ∃ a, g.Reaches start a ∧ p ∈ g.children a) : ∀ x ∈ order, g.Reaches start x.1 := by
  induction h with
  | done => exact List.forall_mem_nil _
  | seen _ _ ih => exact ih started (List.forall_mem_cons.1 from_).2
  | missing _ _ _ ih => exact ih (List.mem_cons_of_mem _ started) (List.forall_mem_cons.1 from_).2
  | @enter visited between after depth p ps b inner order isNew loaded below rest ihBelow ihRest =>
    obtain ⟨⟨a, reached, included⟩, later⟩ := List.forall_mem_cons.1 from_
    have elsewhere : g.file p ≠ start.file := fun same => isNew (by rw [same]; exact started)
    have entered : g.Reaches start b := reached.step included elsewhere loaded
    have started' : start.file ∈ g.file p :: visited := List.mem_cons_of_mem _ started
    refine List.forall_mem_cons.2 ⟨entered, List.forall_mem_append.2 ⟨?_, ?_⟩⟩
    · exact ihBelow started' fun q member => ⟨b, entered, member⟩
    · exact ihRest (below.visited_subset started') later

/-- Nothing that is included by what is visited is left out. -/
theorem closed (h : g.Search visited depth ps order after) :
    (∀ p ∈ ps, g.file p ∈ after) ∧ ∀ x ∈ order, ∀ p ∈ g.children x.1, g.file p ∈ after := by
  induction h with
  | done => exact ⟨List.forall_mem_nil _, List.forall_mem_nil _⟩
  | seen isSeen rest ih => exact ⟨List.forall_mem_cons.2 ⟨rest.visited_subset isSeen, ih.1⟩, ih.2⟩
  | missing _ _ rest ih => exact ⟨List.forall_mem_cons.2 ⟨rest.visited_subset List.mem_cons_self, ih.1⟩, ih.2⟩
  | enter _ _ below rest ihBelow ihRest =>
    constructor
    · refine List.forall_mem_cons.2 ⟨?_, ihRest.1⟩
      exact rest.visited_subset (below.visited_subset List.mem_cons_self)
    · refine List.forall_mem_cons.2 ⟨?_, List.forall_mem_append.2 ⟨?_, ihRest.2⟩⟩
      · intro p included
        exact rest.visited_subset (ihBelow.1 p included)
      · intro x isIn p included
        exact rest.visited_subset (ihBelow.2 x isIn p included)

/-- A file that is left as visited was so before, or comes from a path whose document, if it can be loaded,
is in the order. -/
theorem origin (h : g.Search visited depth ps order after) (included : ∀ p ∈ ps, g.IsIncluded p) {f : FileId}
    (member : f ∈ after) :
    f ∈ visited ∨ ∃ p, g.IsIncluded p ∧ g.file p = f ∧ ∀ a, g.load p = some a → a ∈ order.map (·.1) := by
  induction h with
  | done => exact .inl member
  | seen _ _ ih => exact ih (List.forall_mem_cons.1 included).2 member
  | missing _ unloaded _ ih =>
    rcases ih (List.forall_mem_cons.1 included).2 member with before | origin
    · rcases List.mem_cons.1 before with rfl | before
      · refine .inr ⟨_, included _ List.mem_cons_self, rfl, ?_⟩
        intro a loaded
        cases unloaded.symm.trans loaded
      · exact .inl before
    · exact .inr origin
  | @enter visited between after depth p ps a inner order isNew loaded below rest ihBelow ihRest =>
    rcases ihRest (List.forall_mem_cons.1 included).2 member with before | origin
    · rcases ihBelow (fun p member => ⟨a, member⟩) before with before | origin
      · rcases List.mem_cons.1 before with rfl | before
        · refine .inr ⟨p, included p List.mem_cons_self, rfl, ?_⟩
          intro b loaded'
          cases loaded.symm.trans loaded'
          exact List.mem_cons_self
        · exact .inl before
      · obtain ⟨q, isIncluded, same, inOrder⟩ := origin
        refine .inr ⟨q, isIncluded, same, fun b loaded' => ?_⟩
        rw [List.map_cons, List.map_append]
        exact List.mem_cons_of_mem _ (List.mem_append_left _ (inOrder b loaded'))
    · obtain ⟨q, isIncluded, same, inOrder⟩ := origin
      refine .inr ⟨q, isIncluded, same, fun b loaded' => ?_⟩
      rw [List.map_cons, List.map_append]
      exact List.mem_cons_of_mem _ (List.mem_append_right _ (inOrder b loaded'))

section

variable (coherent : g.IsCoherent) {start : Analysis}
  (h : g.Search [start.file] 1 (g.children start) order after)

include coherent h

/-- From a document on, the search visits just what can be reached. -/
theorem mem_iff_reaches (b : Analysis) : b ∈ start :: order.map (·.1) ↔ g.Reaches start b := by
  constructor
  · intro member
    rcases List.mem_cons.1 member with rfl | member
    · exact .start
    · obtain ⟨x, isIn, rfl⟩ := List.mem_map.1 member
      exact h.reaches List.mem_cons_self (fun p included => ⟨start, .start, included⟩) x isIn
  · intro reached
    induction reached with
    | start => exact List.mem_cons_self
    | @step a b p _ included elsewhere loaded ih =>
      -- the file of an included path has been visited, and its document with it
      have isAfter : g.file p ∈ after := by
        rcases List.mem_cons.1 ih with rfl | ih
        · exact h.closed.1 p included
        · obtain ⟨x, isIn, rfl⟩ := List.mem_map.1 ih
          exact h.closed.2 x isIn p included
      rcases h.origin (fun p member => ⟨start, member⟩) isAfter with atStart | ⟨q, isIncluded, same, inOrder⟩
      · exact absurd (List.mem_singleton.1 atStart) elsewhere
      · apply List.mem_cons_of_mem
        apply inOrder b
        rw [coherent.load_eq q p isIncluded ⟨a, included⟩ same, loaded]

/-- From a document on, the search visits no file twice. -/
theorem nodup_cons : ((start :: order.map (·.1)).map (·.file)).Nodup := by
  have included : ∀ p ∈ g.children start, g.IsIncluded p := fun p member => ⟨start, member⟩
  rw [List.map_cons, List.map_map, List.nodup_cons]
  refine ⟨?_, h.nodup coherent included⟩
  intro member
  obtain ⟨x, isIn, same⟩ := List.mem_map.1 member
  exact (h.file_mem coherent included x isIn).1 (List.mem_singleton.2 same)

end

end Search

end IncludeGraph

end ShaderAnalysis
