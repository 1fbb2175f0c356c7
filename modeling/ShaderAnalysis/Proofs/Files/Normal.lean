import Mathlib.Logic.Relation
import ShaderAnalysis.Proofs.Files.Same

/-!
# Normal forms of paths

A dot can be left out of a path, and so can a name with the double dot behind it, and a double dot on the root.
Normalising leaves all of them out (`isNormal_normalize`) and keeps a path that has none of them
(`components_normalize_eq_self_iff`). Paths have one normal form exactly if leaving such parts out, and putting them
in, leads from one to the other (`normalize_eq_iff`), so it does not matter which of such paths a text is joined to
(`normalize_join_normalize`).
-/

namespace ShaderAnalysis

namespace Path

/-! ## Paths that lead to one place -/

/-- One part that leads nowhere is left out: a dot, a name that the next component leaves again, or a double dot on
the root. -/
inductive Folds : List Component → List Component → Prop where
  | current (before after : List Component) : Folds (before ++ .current :: after) (before ++ after)
  | wayBack (before after : List Component) (name : String) :
    Folds (before ++ .normal name :: .parent :: after) (before ++ after)
  | aboveRoot (before after : List Component) :
    Folds (before ++ .root :: .parent :: after) (before ++ .root :: after)

/-- Paths whose components lead to one place, whatever is on the disk. -/
def Equivalent (p q : Path) : Prop :=
  Relation.EqvGen Folds p.components q.components

/-- A path in which nothing can be left out: it has no dot, no double dot behind a name, and below the root no
double dot at all. -/
structure IsNormal (p : Path) : Prop where
  noCurrent : .current ∉ p.components
  noWayBack (name : String) : ¬ [.normal name, .parent].Sublist p.components
  noneBelowRoot : p.isAbsolute = true → .parent ∉ p.components

/-! ## Components -/

section Components

variable {parts others : List Component}

theorem normalizeComponents_of_folds (h : Folds parts others) :
    normalizeComponents parts = normalizeComponents others := by
  cases h <;> rw [normalizeComponents, normalizeComponents, List.foldl_append, List.foldl_append] <;> rfl

theorem normalizeComponents_of_eqvGen (h : Relation.EqvGen Folds parts others) :
    normalizeComponents parts = normalizeComponents others := by
  induction h with
  | rel _ _ folds => exact normalizeComponents_of_folds folds
  | refl _ => rfl
  | symm _ _ _ ih => exact ih.symm
  | trans _ _ _ _ _ ih next => exact ih.trans next

/-- Taking one more component into account leaves out at most one part. -/
theorem folds_normalizeStep (stack : List Component) (c : Component) (after : List Component) :
    Relation.ReflTransGen Folds (stack.reverse ++ c :: after) ((normalizeStep stack c).reverse ++ after) := by
  unfold normalizeStep
  split
  · exact .single (.current stack.reverse after)
  · rename_i name rest
    rw [List.reverse_cons, List.append_assoc]
    exact .single (.wayBack rest.reverse after name)
  · rename_i rest
    rw [List.reverse_cons, List.append_assoc, List.append_assoc]
    exact .single (.aboveRoot rest.reverse after)
  · rw [List.reverse_cons, List.append_assoc]
    exact .refl

theorem folds_foldl_normalizeStep (stack parts : List Component) :
    Relation.ReflTransGen Folds (stack.reverse ++ parts) (parts.foldl normalizeStep stack).reverse := by
  induction parts generalizing stack with
  | nil =>
    rw [List.append_nil]
    exact .refl
  | cons c parts ih => exact (folds_normalizeStep stack c parts).trans (ih (normalizeStep stack c))

/-- Normalising only leaves parts out that lead nowhere. -/
theorem folds_normalizeComponents (parts : List Component) :
    Relation.EqvGen Folds parts (normalizeComponents parts) :=
  Relation.EqvGen.reflTransGen_le_eqvGen Folds _ _ (folds_foldl_normalizeStep [] parts)

theorem normalizeComponents_normalizeComponents (parts : List Component) :
    normalizeComponents (normalizeComponents parts) = normalizeComponents parts :=
  (normalizeComponents_of_eqvGen (folds_normalizeComponents parts)).symm

/-- Only what is left of the components in front matters to those behind. -/
theorem normalizeComponents_append (parts more : List Component) :
    normalizeComponents (normalizeComponents parts ++ more) = normalizeComponents (parts ++ more) := by
  have stack := List.reverse_injective (normalizeComponents_normalizeComponents parts)
  rw [normalizeComponents, List.foldl_append, stack, ← List.foldl_append, ← normalizeComponents]

end Components

variable {p q : Path}

/-! ## Normal forms -/

theorem isNormal_normalize (p : Path) : p.normalize.IsNormal where
  noCurrent := by
    rw [components_normalize, ← List.mem_reverse]
    exact (isSettled_normalizeComponents _).noCurrent
  noWayBack name behind := by
    rw [components_normalize] at behind
    have ordered := (isSettled_normalizeComponents _).ordered.sublist behind.reverse
    cases List.pairwise_pair.1 ordered rfl
  noneBelowRoot absolute := by
    rw [isAbsolute_normalize] at absolute
    obtain ⟨names, -, parts⟩ := exists_normalizeComponents_eq absolute
    rw [components_normalize, parts]
    simp

theorem IsNormal.congr (h : p.IsNormal) (same : p.components = q.components) : q.IsNormal where
  noCurrent := same ▸ h.noCurrent
  noWayBack name := same ▸ h.noWayBack name
  noneBelowRoot absolute := by
    rw [← same]
    exact h.noneBelowRoot ((isAbsolute_congr same).trans absolute)

/-- Nothing can be left out of a path in normal form. -/
theorem IsNormal.not_folds (h : p.IsNormal) (others : List Component) : ¬ Folds p.components others := by
  intro folds
  generalize parts : p.components = here at folds
  cases folds with
  | current before after =>
    apply h.noCurrent
    rw [parts]
    exact List.mem_append_right _ List.mem_cons_self
  | wayBack before after name =>
    apply h.noWayBack name
    rw [parts]
    exact (List.sublist_append_left [.normal name, .parent] after).trans (List.sublist_append_right before _)
  | aboveRoot before after =>
    have root : .root ∈ p.components := by
      rw [parts]
      exact List.mem_append_right _ List.mem_cons_self
    apply h.noneBelowRoot (isAbsolute_iff_mem.2 root)
    rw [parts]
    exact List.mem_append_right _ (List.mem_cons_of_mem _ List.mem_cons_self)

/-- A path is in normal form exactly if normalising keeps its components. -/
theorem components_normalize_eq_self_iff : p.normalize.components = p.components ↔ p.IsNormal := by
  constructor
  · intro same
    exact (isNormal_normalize p).congr same
  · intro normal
    rw [components_normalize]
    rcases (folds_foldl_normalizeStep [] p.components).cases_head with same | ⟨others, folds, -⟩
    · exact same.symm
    · exact absurd folds (normal.not_folds others)

/-- Paths have one normal form exactly if their components lead to one place. -/
theorem normalize_eq_iff : p.normalize = q.normalize ↔ p.Equivalent q := by
  constructor
  · intro same
    have parts : normalizeComponents p.components = normalizeComponents q.components := by
      rw [← components_normalize, same, components_normalize]
    have back := Relation.EqvGen.symm _ _ (folds_normalizeComponents q.components)
    exact .trans _ _ _ (folds_normalizeComponents p.components) (parts ▸ back)
  · intro equivalent
    rw [normalize, normalize, normalizeComponents_of_eqvGen equivalent]

theorem normalize_normalize (p : Path) : p.normalize.normalize = p.normalize := by
  rw [normalize, components_normalize, normalizeComponents_normalizeComponents, ← normalize]

/-! ## Joined paths -/

/-- The components of a joined path lead where those of the two paths lead, one after the other. -/
theorem normalizeComponents_join (relative : q.isAbsolute = false) :
    normalizeComponents (p.join q.text).components = normalizeComponents (p.components ++ q.components) := by
  by_cases empty : p.text = ""
  · have joined : p.join q.text = q := by
      rw [join, if_neg (by simp [relative]), if_pos (by simp [empty]), empty, String.empty_append]
    rw [joined, components_eq_nil.2 empty, List.nil_append]
  · rw [components_join empty relative]
    rcases components_of_relative relative with parts | parts
    · rw [parts]
    · -- the dot at the start is no component of the joined path
      rw [parts]
      exact (normalizeComponents_of_folds (.current ..)).symm

theorem normalize_join_normalize (p q : Path) : (p.normalize.join q.text).normalize = (p.join q.text).normalize := by
  cases absolute : q.isAbsolute with
  | true => rw [join, join, if_pos absolute, if_pos absolute]
  | false =>
    refine congrArg ofComponents ?_
    rw [normalizeComponents_join absolute, normalizeComponents_join absolute, components_normalize,
      normalizeComponents_append]

/-- The normal form of a path is canonical: it is normal, and absolute if the path is, normalising leaves it as it
is, and joined paths have the normal form that they have if the first one is in normal form. Only normal paths keep
their components, and two paths have one normal form exactly if their components lead to one place. -/
theorem normalize_canonical (p q : Path) :
    p.normalize.IsNormal ∧ p.normalize.isAbsolute = p.isAbsolute ∧ p.normalize.normalize = p.normalize ∧
      (p.join q.text).normalize = (p.normalize.join q.text).normalize ∧
      (p.normalize.components = p.components ↔ p.IsNormal) ∧ (p.normalize = q.normalize ↔ p.Equivalent q) :=
  ⟨isNormal_normalize p, isAbsolute_normalize p, normalize_normalize p, (normalize_join_normalize p q).symm,
    components_normalize_eq_self_iff, normalize_eq_iff⟩

/-- More double dots than there are names to leave stay, and on the root none does. -/
example : ((Path.mk "a/./b").join "../../../c").normalize = ⟨"../c"⟩ ∧
    ((Path.mk "/a/b").join "../../../c").normalize = ⟨"/c"⟩ ∧ ((Path.mk "a").join "/b/..").normalize = ⟨"/"⟩ := by
  decide +kernel

end Path

end ShaderAnalysis
