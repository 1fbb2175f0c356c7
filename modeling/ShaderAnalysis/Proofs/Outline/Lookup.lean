import ShaderAnalysis.Outline.Index
import ShaderAnalysis.Proofs.Outline.Nesting

/-!
# Looking up names

An outline and the index of its names stay in step: an index that is there is the one that would be built
now. Names and preorder are all it depends on, so a change of a detail keeps it, and a symbol that is added
drops it. What holds of every outline that is built by such steps is put together in `IsBuilt.nested_listed_found`.
-/

namespace ShaderAnalysis

namespace Outline

/-! ## What a change of a detail keeps -/

section

variable (t : Outline) (id : Nat) (detail : String)

theorem preorderBelow_setDetail (other : Nat) : (t.setDetail id detail).preorderBelow other = t.preorderBelow other := by
  have same (x : Nat) : (t.setDetail id detail).descendants x = t.descendants x := by
    rw [descendants, descendants, children_setDetail, size_setDetail]
  induction other using preorderBelow.induct t with
  | case1 other ih =>
    rw [preorderBelow_eq, preorderBelow_eq, same]
    exact congrArg (List.cons other) (List.flatMap_congr fun child member => ih ⟨child, member⟩)

@[simp] theorem preorder_setDetail : (t.setDetail id detail).preorder = t.preorder := by
  rw [preorder_eq_flatMap, preorder_eq_flatMap, roots_setDetail]
  exact List.flatMap_congr fun root _ => preorderBelow_setDetail t id detail root

theorem nameIndex_setDetail : (t.setDetail id detail).nameIndex = t.nameIndex := by
  have same : (t.setDetail id detail).indexName = t.indexName := by
    funext names other
    rw [indexName, indexName, get?_setDetail]
    cases t.get? other with
    | none => rfl
    | some s =>
      simp only [Option.map_some]
      split <;> rfl
  rw [nameIndex, nameIndex, preorder_setDetail, same]

end

/-! ## The index -/

theorem find?_indexName (t : Outline) (names : Table String Nat) (id : Nat) (name : String) :
    (t.indexName names id).find? name = (names.find? name).or (if t.isNamed name id then some id else none) := by
  cases here : t.get? id with
  | none => simp [indexName, isNamed, here]
  | some s =>
    simp only [indexName, isNamed, here, Option.any_some, beq_iff_eq]
    by_cases known : names.contains s.name = true
    · obtain ⟨first, isFirst⟩ := Option.isSome_iff_exists.1 known
      rw [if_pos known]
      split
      · rename_i same
        rw [← same, isFirst, Option.some_or]
      · rw [Option.or_none]
    · have unknown : names.find? s.name = none := Option.not_isSome_iff_eq_none.1 known
      rw [if_neg known, Table.find?_insert]
      by_cases same : s.name = name
      · rw [if_pos same.symm, if_pos same, ← same, unknown, Option.none_or]
      · rw [if_neg (Ne.symm same), if_neg same, Option.or_none]

/-- A name that is not in the index yet is the name of the first symbol that has it. -/
theorem find?_foldl_indexName (t : Outline) (ids : List Nat) (names : Table String Nat) (name : String) :
    (ids.foldl t.indexName names).find? name = (names.find? name).or (ids.find? (t.isNamed name)) := by
  induction ids generalizing names with
  | nil => rw [List.foldl_nil, List.find?_nil, Option.or_none]
  | cons id ids ih =>
    rw [List.foldl_cons, ih, find?_indexName, Option.or_assoc, List.find?_cons]
    congr 1
    cases t.isNamed name id <;> rfl

theorem find?_nameIndex (t : Outline) (name : String) : t.nameIndex.find? name = t.find? name := by
  rw [nameIndex, find?_foldl_indexName, Table.find?_empty, Option.none_or, find?]

theorem find?_eq_head? (t : Outline) (name : String) : t.find? name = (t.findAll name).head? := by
  rw [find?, findAll, List.head?_filter]

end Outline

namespace IndexedOutline

/-- What comes from the outline without symbols by putting symbols below symbols that are there, by changing
details of such symbols, and by looking up names. -/
inductive IsBuilt : IndexedOutline → Prop where
  | empty : IsBuilt (.ofOutline .empty)
  | push {t : IndexedOutline} (before : IsBuilt t) (parent : Option Nat) (s : Symbol)
      (known : ∀ id ∈ parent, id < t.outline.size) : IsBuilt (t.push parent s).1
  | setDetail {t : IndexedOutline} (before : IsBuilt t) (id : Nat) (detail : String)
      (known : id < t.outline.size) : IsBuilt (t.setDetail id detail)
  | find {t : IndexedOutline} (before : IsBuilt t) (name : String) : IsBuilt ((find? name).run t).2
  | findAll {t : IndexedOutline} (before : IsBuilt t) (name : String) : IsBuilt ((findAll name).run t).2

/-- An index that is there has the names of the outline as it is now. -/
def IsInStep (t : IndexedOutline) : Prop :=
  ∀ names ∈ t.index, names = t.outline.nameIndex

variable {t : IndexedOutline}

theorem run_find? (t : IndexedOutline) (name : String) : (find? name).run t =
    ((t.index.getD t.outline.nameIndex).find? name, ⟨t.outline, some (t.index.getD t.outline.nameIndex)⟩) := rfl

theorem IsInStep.getD_index (step : t.IsInStep) : t.index.getD t.outline.nameIndex = t.outline.nameIndex := by
  cases index : t.index with
  | none => rfl
  | some names => exact step names index

theorem IsBuilt.isInStep (built : IsBuilt t) : t.IsInStep := by
  induction built with
  | empty => exact fun names member => by cases member
  | push before parent s known ih => exact fun names member => by cases member
  | @setDetail t before id detail known ih =>
    intro names member
    rw [ih names member]
    exact (t.outline.nameIndex_setDetail id detail).symm
  | find before name ih =>
    intro names member
    rw [run_find?] at member
    cases member
    exact ih.getD_index
  | findAll before name ih => exact ih

theorem IsBuilt.isNested (built : IsBuilt t) : t.outline.IsNested := by
  induction built with
  | empty => exact Outline.isNested_empty
  | push before parent s known ih => exact ih.push known s
  | setDetail before id detail known ih => exact ih.setDetail id detail
  | find before name ih => exact ih
  | findAll before name ih => exact ih

theorem IsInStep.find? (step : t.IsInStep) (name : String) :
    ((find? name).run t).1 = (t.outline.findAll name).head? := by
  rw [run_find?, step.getD_index, Outline.find?_nameIndex, Outline.find?_eq_head?]

/-- The first symbol in a list that is taken, even if the first one of the list is tried beforehand. -/
theorem if_any_head? {α : Type} (p : α → Bool) (xs : List α) :
    (if xs.head?.any p then xs.head? else xs.find? p) = xs.find? p := by
  cases xs with
  | nil => rfl
  | cons x xs =>
    rw [List.head?_cons, Option.any_some, List.find?_cons]
    split <;> simp_all

theorem IsInStep.firstAccepted (step : t.IsInStep) (name : String) (accept : Symbol → Bool) :
    ((firstAccepted name accept).run t).1 = (t.outline.findAll name).find? (t.outline.accepts accept) := by
  have run : ((IndexedOutline.firstAccepted name accept).run t).1 =
      if ((IndexedOutline.find? name).run t).1.any (t.outline.accepts accept) then ((IndexedOutline.find? name).run t).1
      else (t.outline.findAll name).find? (t.outline.accepts accept) := rfl
  rw [run, step.find? name, if_any_head?]

/-- However an outline is built and its names are looked up in between: names lie in their symbols and symbols
in their parents, every symbol is listed where it belongs and nowhere else, preorder has every symbol once,
parents before children and each level as it came to be, and looking up a name gives the first symbol that has
it now. -/
theorem IsBuilt.nested_listed_found (built : IsBuilt t) :
    (∀ id s, t.outline.get? id = some s → s.span.covers s.selection = true) ∧
      (∀ id s above, t.outline.get? id = some s → t.outline.parent? id = some above →
        ∃ outer, t.outline.get? above = some outer ∧ outer.span.covers s.span = true) ∧
      (∀ place id, (t.outline.level place).count id =
        if id < t.outline.size ∧ t.outline.parent? id = place then 1 else 0) ∧
      t.outline.preorder.Perm (List.range t.outline.size) ∧
      (∀ id above, t.outline.parent? id = some above → [above, id].Sublist t.outline.preorder) ∧
      (∀ place, (t.outline.level place).Pairwise (· < ·) ∧ (t.outline.level place).Sublist t.outline.preorder) ∧
      (∀ name, ((find? name).run t).1 = (t.outline.findAll name).head?) ∧
      (∀ name accept, ((firstAccepted name accept).run t).1 =
        (t.outline.findAll name).find? (t.outline.accepts accept)) := by
  have nested := built.isNested
  have step := built.isInStep
  refine ⟨nested.selection, nested.child, nested.count_level, nested.preorder_perm, ?_, ?_, step.find?,
    step.firstAccepted⟩
  · intro id above knows
    exact nested.pair_sublist_preorder knows
  · intro place
    exact ⟨nested.ascending place, nested.level_sublist_preorder place⟩

/-- A struct, and a field that reaches out of it and is added after its name was looked up in vain. -/
def lateField : IndexedOutline :=
  let struct := ((ofOutline .empty).push none ⟨"Outer", "struct", .struct, .between 10 50, .between 17 22⟩).1
  (((find? "late").run struct).2.push (some 0) ⟨"late", "float", .field, .between 5 90, .between 6 10⟩).1

theorem isBuilt_lateField : IsBuilt lateField :=
  .push (.find (.push .empty none _ (by simp)) "late") (some 0) _ (by decide)

/-- The field is clamped into the struct, follows it in preorder, and its name is found. -/
theorem lateField_is_found : IsBuilt lateField ∧
    lateField.outline.get? 1 = some ⟨"late", "float", .field, .between 10 50, .between 10 10⟩ ∧
      [0, 1].Sublist lateField.outline.preorder ∧ ((find? "late").run lateField).1 = some 1 := by
  obtain ⟨-, -, -, -, parents, -, first, -⟩ := isBuilt_lateField.nested_listed_found
  refine ⟨isBuilt_lateField, by decide, parents 1 0 (by decide), ?_⟩
  have all : lateField.outline.findAll "late" = [1] := by decide +kernel
  rw [first "late", all, List.head?_cons]

end IndexedOutline

end ShaderAnalysis
