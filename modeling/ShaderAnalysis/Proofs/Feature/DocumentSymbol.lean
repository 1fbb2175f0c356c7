import ShaderAnalysis.Feature.DocumentSymbol
import ShaderAnalysis.Proofs.Document.Position
import ShaderAnalysis.Proofs.Outline.BlockAlignment
import ShaderAnalysis.Proofs.Outline.Names

/-!
# The outline for the client is the outline

The symbols of a document for the client, listed from the top and in depth, are the symbols of its outline in preorder,
each below the same one (`rows_documentSymbols`). They can be put together from the last symbol of the preorder to the
first one: a table holds the symbols whose parents are still to come, and a symbol takes its children out of it
(`assembled_eq`). Positions are in the order of the offsets that they stand for, as long as these are between
characters, which is why ranges are nested as spans are.
-/

namespace ShaderAnalysis

/-! ## Positions of spans -/

/-- The range is one, and lies in the other one. -/
structure PositionRange.IsWithin (inner outer : PositionRange) : Prop where
  start : inner.start.precedes outer.start = false
  ordered : inner.stop.precedes inner.start = false
  stop : outer.stop.precedes inner.stop = false

namespace Document

open Position

variable {d : Document}

/-- Positions are in the order of the places between characters that they stand for. -/
theorem precedes_positionOf (indexed : d.IsIndexed) {a b : Nat} (start : Text.isBoundary d.text a = true)
    (stop : Text.isBoundary d.text b = true) (le : a ≤ b) : (d.positionOf b).precedes (d.positionOf a) = false := by
  obtain ⟨front, mid, back, chars, rfl, rfl⟩ := Text.exists_append_of_isBoundary start stop le
  have whole : d.text.toList = (front ++ mid) ++ back := by rw [chars, List.append_assoc]
  rw [← Text.length8_append, positionOf_eq indexed chars, positionOf_eq indexed whole, walk_append,
    ← Bool.not_eq_true]
  intro before
  rcases List.eq_nil_or_concat' mid with rfl | ⟨init, c, rfl⟩
  · rw [walk_nil, precedes_iff] at before
    omega
  · have behind := precedes_trans before (precedes_walk (origin.walk front) (List.append_ne_nil_of_right_ne_nil init
      (List.cons_ne_nil c [])))
    rw [precedes_iff] at behind
    omega

theorem isWithin_rangeOf (indexed : d.IsIndexed) {inner outer : Span} (aligned : inner.IsAligned d.text)
    (around : outer.IsAligned d.text) (covers : outer.covers inner = true) :
    (d.rangeOf inner).IsWithin (d.rangeOf outer) := by
  obtain ⟨start, stop⟩ := Span.covers_iff.1 covers
  exact ⟨precedes_positionOf indexed around.start aligned.start start,
    precedes_positionOf indexed aligned.start aligned.stop inner.start_le_stop,
    precedes_positionOf indexed aligned.stop around.stop stop⟩

end Document

/-! ## Listing -/

/-- A symbol for the client without the symbols below it, and the place in a list of the one above it. -/
structure SymbolRow where
  name : String
  detail : String
  kind : SymbolKind
  range : PositionRange
  selection : PositionRange
  above : Option Nat
  deriving DecidableEq, Repr

namespace DocumentSymbol

mutual

/-- A symbol and all symbols below it, from the top and in depth; `place` is where the list starts in a longer one. -/
def rows (above : Option Nat) (place : Nat) : DocumentSymbol → List SymbolRow
  | .node name detail kind range selection children =>
    ⟨name, detail, kind, range, selection, above⟩ :: rowsOfAll (some place) (place + 1) children

/-- Symbols, each with all symbols below it, one after the other. -/
def rowsOfAll (above : Option Nat) (place : Nat) : List DocumentSymbol → List SymbolRow
  | [] => []
  | s :: rest => rows above place s ++ rowsOfAll above (place + (rows above place s).length) rest

end

end DocumentSymbol

namespace Analysis

open Outline DocumentSymbol

variable {a : Analysis}

theorem symbolBelow_eq (a : Analysis) (id : Nat) : a.symbolBelow id =
    .node (a.symbol id).name (a.symbol id).detail (a.symbol id).kind (a.document.rangeOf (a.symbol id).span)
      (a.document.rangeOf (a.symbol id).selection) ((a.outline.descendants id).map a.symbolBelow) := by
  rw [symbolBelow, List.attach_map_val (f := a.symbolBelow)]

/-- The row of a symbol of the outline in the list of all of them. -/
def row (a : Analysis) (id : Nat) : SymbolRow :=
  ⟨(a.symbol id).name, (a.symbol id).detail, (a.symbol id).kind, a.document.rangeOf (a.symbol id).span,
    a.document.rangeOf (a.symbol id).selection, (a.outline.parent? id).map a.outline.preorder.idxOf⟩

/-- A symbol stands in preorder behind what comes before it. -/
theorem idxOf_preorder (nested : a.outline.IsNested) {front back : List Nat} {id : Nat}
    (split : a.outline.preorder = front ++ id :: back) : a.outline.preorder.idxOf id = front.length := by
  have nodup := nested.forest.nodup_preorder
  rw [split] at nodup ⊢
  have fresh : id ∉ front := fun member => (List.nodup_append.1 nodup).2.2 id member id List.mem_cons_self rfl
  rw [List.idxOf_append_of_notMem fresh, List.idxOf_cons_self, Nat.add_zero]

/-- If each of these symbols is listed as in preorder, so are all of them. -/
theorem rowsOfAll_map (place : Option Nat) {ids : List Nat}
    (listed : ∀ id ∈ ids, ∀ front back, a.outline.preorder = front ++ (a.outline.preorderBelow id ++ back) →
      rows place front.length (a.symbolBelow id) = (a.outline.preorderBelow id).map a.row)
    {front back : List Nat} (split : a.outline.preorder = front ++ (ids.flatMap a.outline.preorderBelow ++ back)) :
    rowsOfAll place front.length (ids.map a.symbolBelow) = (ids.flatMap a.outline.preorderBelow).map a.row := by
  induction ids generalizing front with
  | nil => rfl
  | cons id ids ih =>
    rw [List.forall_mem_cons] at listed
    rw [List.flatMap_cons, List.append_assoc] at split
    have first := listed.1 front _ split
    have length : front.length + ((a.outline.preorderBelow id).map a.row).length =
        (front ++ a.outline.preorderBelow id).length := by rw [List.length_map, List.length_append]
    rw [List.map_cons, rowsOfAll, first, length, List.flatMap_cons, List.map_append]
    rw [ih listed.2 (by rw [split, List.append_assoc])]

/-- What is below a symbol is listed as in preorder. -/
theorem rows_symbolBelow (nested : a.outline.IsNested) (id : Nat) {front back : List Nat}
    (split : a.outline.preorder = front ++ (a.outline.preorderBelow id ++ back)) :
    rows ((a.outline.parent? id).map a.outline.preorder.idxOf) front.length (a.symbolBelow id) =
      (a.outline.preorderBelow id).map a.row := by
  induction id using preorderBelow.induct a.outline generalizing front back with
  | case1 id ih =>
    rw [preorderBelow_eq] at split ⊢
    have here : a.outline.preorder.idxOf id = front.length := idxOf_preorder nested split
    have below : a.outline.preorder =
        (front ++ [id]) ++ ((a.outline.descendants id).flatMap a.outline.preorderBelow ++ back) := by
      rw [split]
      simp only [List.append_assoc, List.cons_append, List.nil_append]
    have children := rowsOfAll_map (some front.length) (fun child member front' back' split' => by
      obtain ⟨-, -, parent⟩ := nested.forest.child id child (nested.forest.mem_descendants_iff.1 member)
      have listed := ih ⟨child, member⟩ split'
      rwa [parent, Option.map_some, here] at listed) below
    rw [List.length_append] at children
    rw [symbolBelow_eq, rows, List.map_cons, ← children]
    rfl

/-- The symbols for the client are those of the outline, in the same order and below the same ones. -/
theorem rows_documentSymbols (nested : a.outline.IsNested) :
    rowsOfAll none 0 a.documentSymbols = a.outline.preorder.map a.row := by
  have whole : a.outline.preorder = [] ++ (a.outline.roots.flatMap a.outline.preorderBelow ++ []) := by
    rw [preorder_eq_flatMap, List.append_nil, List.nil_append]
  have all := rowsOfAll_map none (fun id member front back split => by
    have listed := rows_symbolBelow nested id split
    rwa [(nested.forest.root id member).2, Option.map_none] at listed) whole
  rw [preorder_eq_flatMap]
  exact all

/-! ## Assembling -/

/-- Takes the symbols with these indices out of a table, in this order, as far as they are in it. -/
def takeOut (built : Table Nat DocumentSymbol) : List Nat → List DocumentSymbol × Table Nat DocumentSymbol
  | [] => ([], built)
  | id :: ids =>
    match built.find? id with
    | none => takeOut built ids
    | some s =>
      let (rest, built) := takeOut (built.erase id) ids
      (s :: rest, built)

/-- Puts a symbol into the table, with its children, which it takes out of it. -/
def assemble (a : Analysis) (built : Table Nat DocumentSymbol) (id : Nat) : Table Nat DocumentSymbol :=
  let (children, built) := takeOut built (a.outline.children id)
  let s := a.symbol id
  built.insert id
    (.node s.name s.detail s.kind (a.document.rangeOf s.span) (a.document.rangeOf s.selection) children)

/-- The outline as a tree, put together from the last symbol of the preorder to the first one. -/
def assembled (a : Analysis) : List DocumentSymbol :=
  (takeOut (a.outline.preorder.reverse.foldl a.assemble .empty) a.outline.roots).1

theorem takeOut_eq {built : Table Nat DocumentSymbol} {ids : List Nat} (nodup : ids.Nodup) {f : Nat → DocumentSymbol}
    (there : ∀ id ∈ ids, built.find? id = some (f id)) :
    (takeOut built ids).1 = ids.map f ∧
      ∀ id, (takeOut built ids).2.find? id = if id ∈ ids then none else built.find? id := by
  induction ids generalizing built with
  | nil => exact ⟨rfl, fun id => (if_neg List.not_mem_nil).symm⟩
  | cons id ids ih =>
    rw [List.forall_mem_cons] at there
    obtain ⟨fresh, nodup⟩ := List.nodup_cons.1 nodup
    have others : ∀ other ∈ ids, (built.erase id).find? other = some (f other) := by
      intro other member
      have different : other ≠ id := fun same => fresh (same ▸ member)
      rw [Table.find?_erase, if_neg different, there.2 other member]
    obtain ⟨taken, left⟩ := ih nodup others
    rw [takeOut, there.1]
    refine ⟨by rw [List.map_cons, ← taken], fun other => ?_⟩
    rw [left other, Table.find?_erase]
    by_cases first : other = id
    · have member : other ∈ id :: ids := first ▸ List.mem_cons_self
      rw [if_pos first, if_pos member, ite_self]
    · rw [if_neg first]
      simp only [List.mem_cons, first, false_or]

/-- The symbol is among these, but the one above it is not. -/
def Waits (a : Analysis) (done : List Nat) (id : Nat) : Prop :=
  id ∈ done ∧ ∀ above ∈ a.outline.parent? id, above ∉ done

/-- In the table are the symbols, with all symbols below them, that wait for the one above them. -/
structure Holds (a : Analysis) (done : List Nat) (built : Table Nat DocumentSymbol) : Prop where
  waiting : ∀ id, a.Waits done id → built.find? id = some (a.symbolBelow id)
  taken : ∀ id, ¬a.Waits done id → built.find? id = none

/-- What comes after a symbol stands behind it. -/
theorem mem_of_pair_sublist {front back : List Nat} {x y : Nat} (nodup : (front ++ x :: back).Nodup)
    (pair : [x, y].Sublist (front ++ x :: back)) : y ∈ back := by
  induction front with
  | nil => exact List.singleton_sublist.1 (List.cons_sublist_cons.1 pair)
  | cons z front ih =>
    obtain ⟨fresh, nodup⟩ := List.nodup_cons.1 nodup
    cases pair with
    | cons _ pair => exact ih nodup pair
    | cons_cons _ _ => exact absurd (List.mem_append_right front List.mem_cons_self) fresh

section

variable (nested : a.outline.IsNested) {todo done : List Nat} {id : Nat}
  (split : a.outline.preorder = todo ++ id :: done)

include nested split

/-- In preorder, the children of a symbol stand behind it. -/
theorem mem_of_mem_children {child : Nat} (member : child ∈ a.outline.children id) : child ∈ done := by
  obtain ⟨-, -, parent⟩ := nested.forest.child id child member
  have nodup := nested.forest.nodup_preorder
  have pair := nested.pair_sublist_preorder parent
  rw [split] at nodup pair
  exact mem_of_pair_sublist nodup pair

/-- In preorder, the parent of a symbol stands before it. -/
theorem not_mem_of_parent? {above : Nat} (parent : a.outline.parent? id = some above) : above ∉ id :: done := by
  have nodup := nested.forest.nodup_preorder
  have pair := nested.pair_sublist_preorder parent
  rw [split] at nodup pair
  have backwards : (todo ++ id :: done).reverse = done.reverse ++ id :: todo.reverse := by
    rw [List.reverse_append, List.reverse_cons, List.append_assoc, List.singleton_append]
  have before : above ∈ todo.reverse :=
    mem_of_pair_sublist (backwards ▸ List.nodup_reverse.2 nodup) (backwards ▸ pair.reverse)
  exact fun member => (List.nodup_append.1 nodup).2.2 above (List.mem_reverse.1 before) above member rfl

/-- The next symbol waits, and its children do no longer. -/
theorem waits_cons (other : Nat) :
    a.Waits (id :: done) other ↔ other = id ∨ other ∉ a.outline.children id ∧ a.Waits done other := by
  by_cases same : other = id
  · subst same
    refine iff_of_true ⟨List.mem_cons_self, fun above parent => ?_⟩ (.inl rfl)
    exact not_mem_of_parent? nested split parent
  · by_cases child : other ∈ a.outline.children id
    · obtain ⟨-, -, parent⟩ := nested.forest.child id other child
      refine iff_of_false (fun waits => waits.2 id parent List.mem_cons_self) ?_
      rintro (first | ⟨elsewhere, -⟩)
      · exact same first
      · exact elsewhere child
    · have parents : ∀ above ∈ a.outline.parent? other, above ≠ id := by
        rintro above parent rfl
        have listed := nested.listed other (lt_of_parent? parent)
        rw [show a.outline.parent? other = some above from parent] at listed
        exact child listed
      simp only [Waits, List.mem_cons, same, child, false_or, not_false_eq_true, true_and, not_or]
      exact and_congr_right fun _ => forall₂_congr fun above parent => and_iff_right (parents above parent)

theorem Holds.assemble {built : Table Nat DocumentSymbol} (holds : a.Holds done built) :
    a.Holds (id :: done) (a.assemble built id) := by
  -- the children wait, for the symbol itself has not been put into the table
  have children : ∀ child ∈ a.outline.children id, built.find? child = some (a.symbolBelow child) := by
    intro child member
    refine holds.waiting child ⟨mem_of_mem_children nested split member, fun above parent => ?_⟩
    obtain ⟨-, -, isParent⟩ := nested.forest.child id child member
    cases isParent.symm.trans parent
    have nodup := nested.forest.nodup_preorder
    rw [split] at nodup
    exact (List.nodup_cons.1 (List.nodup_append.1 nodup).2.1).1
  obtain ⟨taken, left⟩ := takeOut_eq (nested.forest.nodup_children id) children
  have all : a.outline.descendants id = a.outline.children id := by
    refine List.filter_eq_self.2 fun child member => ?_
    obtain ⟨later, less, -⟩ := nested.forest.child id child member
    simp [later, less]
  have node : a.assemble built id = (takeOut built (a.outline.children id)).2.insert id (a.symbolBelow id) := by
    rw [symbolBelow_eq, all, ← taken]
    rfl
  have found (other : Nat) : (a.assemble built id).find? other =
      if other = id then some (a.symbolBelow id) else if other ∈ a.outline.children id then none
        else built.find? other := by
    rw [node, Table.find?_insert, left other]
  constructor
  · intro other waits
    rw [found]
    rcases (waits_cons nested split other).1 waits with rfl | ⟨elsewhere, waits⟩
    · rw [if_pos rfl]
    · by_cases same : other = id
      · rw [if_pos same, same]
      · rw [if_neg same, if_neg elsewhere, holds.waiting other waits]
  · intro other gone
    rw [waits_cons nested split other, not_or, Classical.not_and_iff_not_or_not, not_not] at gone
    rw [found, if_neg gone.1]
    split
    · rfl
    · rename_i elsewhere
      exact holds.taken other (gone.2.resolve_left elsewhere)

end

/-- The table after all symbols of the end of a preorder, from the last one to the first one. -/
theorem holds_foldl (nested : a.outline.IsNested) {todo done : List Nat} (split : a.outline.preorder = todo ++ done) :
    a.Holds done (done.reverse.foldl a.assemble .empty) := by
  induction done generalizing todo with
  | nil => exact ⟨fun id waits => absurd waits.1 List.not_mem_nil, fun id _ => Table.find?_empty id⟩
  | cons id done ih =>
    have behind : a.outline.preorder = (todo ++ [id]) ++ done := by
      rw [split, List.append_assoc]
      rfl
    rw [List.reverse_cons, List.foldl_append]
    exact (ih behind).assemble nested split

/-- The assembled tree is the outline as a tree. -/
theorem assembled_eq (nested : a.outline.IsNested) : a.assembled = a.documentSymbols := by
  have holds := holds_foldl nested (List.nil_append a.outline.preorder).symm
  have roots : ∀ id ∈ a.outline.roots,
      (a.outline.preorder.reverse.foldl a.assemble .empty).find? id = some (a.symbolBelow id) := by
    intro id root
    obtain ⟨less, parent⟩ := nested.forest.root id root
    refine holds.waiting id ⟨nested.mem_preorder less, fun above isAbove => ?_⟩
    cases parent.symm.trans isAbove
  exact (takeOut_eq nested.forest.nodup_roots roots).1

/-! ## All of it -/

theorem isNested_extract (language : Language) (text : String) : (extract language text).IsNested := by
  cases language with
  | hlsl => exact (isOrderly_extract_hlsl text).nested
  | shaderLab => exact (isOrderly_extract_shaderLab text).nested

theorem get?_of_mem_preorder (nested : a.outline.IsNested) {id : Nat} (member : id ∈ a.outline.preorder) :
    a.outline.get? id = some (a.symbol id) := by
  obtain ⟨s, here⟩ := exists_get? (nested.forest.lt_of_mem_preorder member)
  rw [symbol, here, Option.getD_some]

section

variable (nested : a.outline.IsNested) (indexed : a.document.IsIndexed) (aligned : a.outline.IsAligned a.document.text)
  {id : Nat} (member : id ∈ a.outline.preorder)

include nested indexed aligned member

theorem selection_isWithin_range : (a.row id).selection.IsWithin (a.row id).range := by
  have here := get?_of_mem_preorder nested member
  obtain ⟨span, selection⟩ := aligned id _ here
  exact Document.isWithin_rangeOf indexed selection span (nested.selection id _ here)

/-- The row of the symbol above is at its place, and has the range of this one in its own. -/
theorem range_isWithin_above {place : Nat} (above : (a.row id).above = some place) :
    ∃ outer, (a.outline.preorder.map a.row)[place]? = some outer ∧ (a.row id).range.IsWithin outer.range := by
  obtain ⟨parent, isParent, rfl⟩ := Option.map_eq_some_iff.1 above
  have here := get?_of_mem_preorder nested member
  obtain ⟨outer, there, covers⟩ := nested.child id _ parent here isParent
  have listed : parent ∈ a.outline.preorder := nested.mem_preorder (lt_of_get? there)
  have isOuter : a.symbol parent = outer := by rw [symbol, there, Option.getD_some]
  refine ⟨a.row parent, ?_, ?_⟩
  · rw [List.getElem?_map, List.getElem?_eq_getElem (List.idxOf_lt_length_of_mem listed), List.getElem_idxOf,
      Option.map_some]
  · refine Document.isWithin_rangeOf indexed (aligned id _ here).span (aligned parent _ ?_).span ?_
    · rw [there, isOuter]
    · rw [isOuter]
      exact covers

end

/-- The symbols that the client gets, from the top and in depth, are the symbols of the outline in preorder, which has
each of them once, and each is below the same one. The tree is the one that is put together from the last symbol to
the first one, and in it the selection of each symbol lies in its range, and its range in that of the symbol above. -/
theorem documentSymbols_listed_nested (s : Snapshot) (language : Language) (indexed : s.document.IsIndexed) :
    let a := ofSnapshot s language
    let rows := rowsOfAll none 0 a.documentSymbols
    a.documentSymbols = a.assembled ∧ a.outline.preorder.Perm (List.range a.outline.size) ∧
      rows = a.outline.preorder.map a.row ∧
      ∀ r ∈ rows, r.selection.IsWithin r.range ∧
        ∀ place, r.above = some place → ∃ outer, rows[place]? = some outer ∧ r.range.IsWithin outer.range := by
  intro a rows
  have nested : a.outline.IsNested := isNested_extract language s.document.text
  have aligned : a.outline.IsAligned a.document.text := isAligned_extract language s.document.text
  have listed : rows = a.outline.preorder.map a.row := rows_documentSymbols nested
  refine ⟨(assembled_eq nested).symm, nested.preorder_perm, listed, fun r isRow => ?_⟩
  rw [listed] at isRow ⊢
  obtain ⟨id, member, rfl⟩ := List.mem_map.1 isRow
  exact ⟨selection_isWithin_range nested indexed aligned member, fun place above =>
    range_isWithin_above nested indexed aligned member above⟩

/-- A struct behind a comment with a character of four bytes, which is two code units. -/
def commentedStruct : Snapshot :=
  ⟨⟨"/a.hlsl"⟩, .new ⟨"file", some .empty, "/a.hlsl", none, none⟩ "/*😀*/ struct S \x7b float x; \x7d;\n" 0, .content 0⟩

/-- The client gets the struct and the field below it, at its own positions. -/
theorem documentSymbols_commentedStruct :
    let rows := [⟨"S", "struct", .struct, ⟨⟨0, 7⟩, ⟨0, 28⟩⟩, ⟨⟨0, 14⟩, ⟨0, 15⟩⟩, none⟩,
      ⟨"x", "float", .field, ⟨⟨0, 18⟩, ⟨0, 26⟩⟩, ⟨⟨0, 24⟩, ⟨0, 25⟩⟩, some 0⟩]
    commentedStruct.document.IsIndexed ∧
      rowsOfAll none 0 (ofSnapshot commentedStruct .hlsl).documentSymbols = rows ∧
      ∃ outer, rows[0]? = some outer ∧
        (PositionRange.mk ⟨0, 18⟩ ⟨0, 26⟩).IsWithin outer.range := by
  intro rows
  have indexed : commentedStruct.document.IsIndexed := Document.isIndexed_new ..
  obtain ⟨-, -, listed, within⟩ := documentSymbols_listed_nested commentedStruct .hlsl indexed
  have order : (ofSnapshot commentedStruct .hlsl).outline.preorder = [0, 1] := by decide +kernel
  have same : [0, 1].map (ofSnapshot commentedStruct .hlsl).row = rows := by decide +kernel
  rw [order, same] at listed
  rw [listed] at within
  refine ⟨indexed, listed, ?_⟩
  exact (within _ (List.mem_cons_of_mem _ List.mem_cons_self)).2 0 rfl

end Analysis

end ShaderAnalysis
