import Mathlib.Data.List.Forall2
import ShaderAnalysis.Proofs.Files.Path

/-!
# Spellings of a path

Paths with the same components are spellings of one path. Joined with one text they stay so (`components_join`),
they have one normal form, and the disk leads to the same place from either of them once a name is joined
(`names?_join`).
-/

namespace ShaderAnalysis

namespace Text

variable {p : Char → Bool}

theorem splitWhere_append_separator {separator : Char} (separates : p separator = true) (before after : List Char) :
    splitWhere p (before ++ separator :: after) = splitWhere p before ++ splitWhere p after := by
  induction before with
  | nil => simp [splitWhere, separates]
  | cons c before ih =>
    rw [List.cons_append, splitWhere, splitWhere, ih]
    split
    · rfl
    · cases split : splitWhere p before with
      | nil => exact absurd split (splitWhere_ne_nil p before)
      | cons piece pieces => rfl

theorem exists_splitWhere_cons {c : Char} (goesOn : p c = false) (cs : List Char) :
    ∃ piece pieces, splitWhere p (c :: cs) = (c :: piece) :: pieces := by
  rw [splitWhere, if_neg (by simp [goesOn])]
  cases split : splitWhere p cs with
  | nil => exact absurd split (splitWhere_ne_nil p cs)
  | cons piece pieces => exact ⟨piece, pieces, rfl⟩

end Text

namespace Path

/-! ## Components -/

/-- The pieces that are components. -/
def solid (pieces : List (List Char)) : List (List Char) :=
  pieces.filter fun piece => piece != [] && piece != ['.']

theorem componentsOfPieces_append (before after : List (List Char)) :
    componentsOfPieces (before ++ after) = componentsOfPieces before ++ componentsOfPieces after := by
  rw [componentsOfPieces, List.filter_append, List.map_append]
  rfl

theorem ofPiece_injective {piece other : List Char} (h : Component.ofPiece piece = Component.ofPiece other) :
    piece = other := by
  unfold Component.ofPiece at h
  split at h <;> split at h
  · rename_i here there
    rw [here, there]
  · cases h
  · cases h
  · exact String.ofList_injective (Component.normal.inj h)

variable {p q : Path}

theorem isAbsolute_congr (same : p.components = q.components) : p.isAbsolute = q.isAbsolute := by
  rw [Bool.eq_iff_iff, isAbsolute_iff_mem, isAbsolute_iff_mem, same]

theorem normalize_congr (same : p.components = q.components) : p.normalize = q.normalize := by
  rw [normalize, normalize, same]

theorem fileName?_congr (same : p.components = q.components) : p.fileName? = q.fileName? := by
  rw [fileName?, fileName?, same]

/-! ## Joined paths -/

/-- Only the empty text is a path without components. -/
theorem components_eq_nil : p.components = [] ↔ p.text = "" := by
  constructor
  · intro none
    cases chars : p.text.toList with
    | nil => simpa using chars
    | cons c cs =>
      rw [components, List.append_eq_nil_iff] at none
      obtain ⟨first, behind⟩ := none
      split at first
      · cases first
      · rename_i relative
        have notSlash : (c == '/') = false := by simpa [isAbsolute, chars] using relative
        obtain ⟨piece, pieces, begins⟩ := Text.exists_splitWhere_cons (p := (· == '/')) notSlash cs
        rw [chars, begins] at first behind
        -- the first piece is a dot, or else a component
        by_cases dot : c :: piece = ['.']
        · rw [List.head?_cons, dot, if_pos (beq_self_eq_true _)] at first
          cases first
        · rw [componentsOfPieces, List.filter_cons_of_pos (by simp [dot])] at behind
          cases behind
  · intro empty
    rw [components, isAbsolute, empty]
    rfl

/-- A text joined to a path stands behind a slash, which the path may end with. -/
theorem exists_toList_join {text : String} (some : p.text ≠ "") (relative : (Path.mk text).isAbsolute = false) :
    ∃ front, (p.join text).text.toList = front ++ '/' :: text.toList ∧
      (p.text.toList = front ∧ front ≠ [] ∨ p.text.toList = front ++ ['/']) := by
  have nonempty : p.text.toList ≠ [] := by simpa using some
  rw [join, relative, if_neg Bool.false_ne_true]
  split
  · rename_i ends
    have last : p.text.toList.getLast? = .some '/' := by simpa [some] using ends
    obtain ⟨front, chars⟩ := List.getLast?_eq_some_iff.1 last
    refine ⟨front, ?_, .inr chars⟩
    rw [String.toList_append, chars, List.append_assoc]
    rfl
  · refine ⟨p.text.toList, ?_, .inl ⟨rfl, nonempty⟩⟩
    rw [String.toList_append, String.toList_append, List.append_assoc]
    rfl

theorem components_join {text : String} (some : p.text ≠ "") (relative : (Path.mk text).isAbsolute = false) :
    (p.join text).components =
      p.components ++ componentsOfPieces (Text.splitWhere (· == '/') text.toList) := by
  obtain ⟨front, joined, chars⟩ := exists_toList_join some relative
  have head (more : List (List Char)) :
      (Text.splitWhere (· == '/') front ++ more).head? = (Text.splitWhere (· == '/') front).head? :=
    List.head?_append_of_ne_nil _ (Text.splitWhere_ne_nil _ _)
  rw [components, components, isAbsolute, isAbsolute, joined, Text.splitWhere_append_separator rfl, head,
    componentsOfPieces_append, ← List.append_assoc]
  rcases chars with ⟨chars, nonempty⟩ | chars
  · rw [chars, List.head?_append_of_ne_nil _ nonempty]
  · rw [chars, Text.splitWhere_append_separator rfl, head, componentsOfPieces_append, List.head?_append,
      List.head?_append]
    simp [Text.splitWhere, componentsOfPieces]

/-- Spellings of a path stay so when a text is joined. -/
theorem components_join_congr (same : p.components = q.components) (text : String) :
    (p.join text).components = (q.join text).components := by
  cases relative : (Path.mk text).isAbsolute with
  | true => rw [join, join, relative, if_pos rfl, if_pos rfl]
  | false =>
    by_cases empty : p.text = ""
    · have empty' : q.text = "" := by rwa [← components_eq_nil, ← same, components_eq_nil]
      rw [join, join, empty, empty']
    · have some : q.text ≠ "" := by rwa [ne_eq, ← components_eq_nil, ← same, components_eq_nil]
      rw [components_join empty relative, components_join some relative, same]

end Path

/-! ## On the disk -/

namespace Disk

open ShaderAnalysis.Path

variable {d : Disk} {p q : Path}

/-- Empty pieces and dots lead on from where one stands, as the component that follows them does. -/
theorem follow_solid {pieces : List (List Char)} (last : ∀ piece ∈ pieces.getLast?, piece ≠ [] ∧ piece ≠ ['.'])
    (here : List String) : d.follow here pieces = d.follow here (solid pieces) := by
  induction pieces generalizing here with
  | nil => rfl
  | cons piece rest ih =>
    have behind : ∀ piece ∈ rest.getLast?, piece ≠ [] ∧ piece ≠ ['.'] := by
      intro other ends
      apply last
      rw [List.getLast?_cons, ends]
      rfl
    by_cases blank : piece = [] ∨ piece = ['.']
    · -- some component follows, and following it fails too where there is no directory
      have more : ∃ next further, solid rest = next :: further := by
        cases ends : rest.getLast? with
        | none =>
          rw [List.getLast?_eq_none_iff] at ends
          have := last piece (by rw [ends]; rfl)
          tauto
        | some final =>
          have isSolid := behind final ends
          have member : final ∈ solid rest :=
            List.mem_filter.2 ⟨List.mem_of_getLast? ends, by simp [isSolid]⟩
          exact List.exists_cons_of_ne_nil (List.ne_nil_of_mem member)
      obtain ⟨next, further, solids⟩ := more
      have skipped : solid (piece :: rest) = solid rest := List.filter_cons_of_neg (by rcases blank with rfl | rfl <;> simp)
      rw [follow, if_pos blank, skipped, ih behind, solids, follow]
      split <;> rfl
    · have kept : solid (piece :: rest) = piece :: solid rest := List.filter_cons_of_pos (by simpa [not_or] using blank)
      rw [kept, follow, follow]
      simp only [ih behind]

/-- An absolute path leads where its components lead, if it does not end in a slash or a dot. -/
theorem names?_of_absolute (absolute : p.isAbsolute = true)
    (last : ∀ piece ∈ (Text.splitWhere (· == '/') p.text.toList).getLast?, piece ≠ [] ∧ piece ≠ ['.']) :
    d.names? p = (d.follow [] (solid (Text.splitWhere (· == '/') p.text.toList))).map List.reverse := by
  rw [names?, if_pos absolute]
  cases chars : p.text.toList with
  | nil => simp [isAbsolute, chars] at absolute
  | cons c cs =>
    obtain rfl : c = '/' := by simpa [isAbsolute, chars] using absolute
    have pieces : Text.splitWhere (· == '/') ('/' :: cs) = [] :: Text.splitWhere (· == '/') cs := by
      rw [Text.splitWhere, if_pos (beq_self_eq_true _)]
    have same : solid ([] :: Text.splitWhere (· == '/') cs) = solid (Text.splitWhere (· == '/') cs) := rfl
    rw [chars, pieces] at last
    rw [pieces, same, List.drop_one, List.tail_cons, follow_solid]
    intro piece ends
    apply last
    rw [List.getLast?_cons, ends]
    rfl

/-- A name behind two spellings of a path leads to one place. -/
theorem names?_join (d : Disk) (same : p.components = q.components) {name : String} (isName : IsName name) :
    d.names? (p.join name) = d.names? (q.join name) := by
  have relative : (Path.mk name).isAbsolute = false := by
    rw [isAbsolute, beq_eq_false_iff_ne]
    intro first
    exact isName.noSlash (List.mem_of_head? first)
  by_cases empty : p.text = ""
  · have empty' : q.text = "" := by rwa [← components_eq_nil, ← same, components_eq_nil]
    rw [join, join, empty, empty']
  · have some : q.text ≠ "" := by rwa [ne_eq, ← components_eq_nil, ← same, components_eq_nil]
    have joined := components_join_congr same name
    have alike := isAbsolute_congr joined
    cases absolute : (p.join name).isAbsolute with
    | false => rw [names?, names?, ← alike, absolute, if_neg Bool.false_ne_true, if_neg Bool.false_ne_true]
    | true =>
      have last {r : Path} (nonempty : r.text ≠ "") :
          ∀ piece ∈ (Text.splitWhere (· == '/') (r.join name).text.toList).getLast?, piece ≠ [] ∧ piece ≠ ['.'] := by
        obtain ⟨front, chars, -⟩ := exists_toList_join nonempty relative
        rw [chars, Text.splitWhere_append_separator rfl, Text.splitWhere_of_not isName.not_slash,
          List.getLast?_concat]
        rintro piece ⟨⟩
        exact ⟨isName.nonempty, isName.notDot⟩
      have solids : solid (Text.splitWhere (· == '/') (p.join name).text.toList) =
          solid (Text.splitWhere (· == '/') (q.join name).text.toList) := by
        rw [components, components, absolute, ← alike, absolute, if_pos rfl] at joined
        exact List.map_injective_iff.2 (fun _ _ => ofPiece_injective) (List.append_cancel_left joined)
      rw [names?_of_absolute absolute (last empty), names?_of_absolute (alike.symm.trans absolute) (last some), solids]

theorem node?_join (d : Disk) (same : p.components = q.components) {name : String} (isName : IsName name) :
    d.node? (p.join name) = d.node? (q.join name) := by
  rw [node?, node?, names?_join d same isName]

theorem isDirectory_join (d : Disk) (same : p.components = q.components) {name : String} (isName : IsName name) :
    d.isDirectory (p.join name) = d.isDirectory (q.join name) := by
  rw [isDirectory, isDirectory, node?_join d same isName]

theorem readText?_join (d : Disk) (same : p.components = q.components) {name : String} (isName : IsName name) :
    d.readText? (p.join name) = d.readText? (q.join name) := by
  rw [readText?, readText?, node?_join d same isName]

/-- The directories in spellings of one directory are spellings of the same ones. -/
theorem subdirectories_join (d : Disk) (same : p.components = q.components) {name : String} (isName : IsName name) :
    List.Forall₂ (fun here there => here.components = there.components) (d.subdirectories (p.join name))
      (d.subdirectories (q.join name)) := by
  rw [subdirectories, subdirectories, node?_join d same isName, List.forall₂_map_left_iff, List.forall₂_map_right_iff,
    List.forall₂_same]
  exact fun entry _ => components_join_congr (components_join_congr same name) entry.1

end Disk

end ShaderAnalysis
