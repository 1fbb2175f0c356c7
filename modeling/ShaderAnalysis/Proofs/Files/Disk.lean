import ShaderAnalysis.Files.FileId
import ShaderAnalysis.Proofs.Files.Path

/-!
# Files and their paths

A path in normal form that leads anywhere is the one path of what it leads to (`canonical?_normalize`), and
every file that some path leads to is listed among the files of the disk (`exists_mem_files`).
-/

namespace ShaderAnalysis

open ShaderAnalysis.Path

namespace Disk

variable {d : Disk}

/-! ## Following names -/

theorem follow_names {names : List String} (proper : ∀ name ∈ names, IsName name) {here there : List String}
    (h : d.follow here (names.map String.toList) = some there) : there = names.reverse ++ here := by
  induction names generalizing here with
  | nil =>
    cases h
    rfl
  | cons name names ih =>
    have isName := proper name List.mem_cons_self
    rw [List.map_cons, follow] at h
    split at h
    · rw [if_neg (fun blank => blank.elim isName.nonempty isName.notDot), if_neg isName.notDots] at h
      dsimp only at h
      split at h
      · rw [ih (fun name member => proper name (List.mem_cons_of_mem _ member)) h, String.ofList_toList,
          List.reverse_cons, List.append_assoc]
        rfl
      · cases h
    · cases h

/-- Of a path of names, just these names lead to a place. -/
theorem names?_pathOf {names : List String} (proper : ∀ name ∈ names, IsName name) {there : List String}
    (h : d.names? (pathOf names) = some there) : there = names := by
  rw [names?, isAbsolute_pathOf, if_pos rfl, pieces_pathOf proper, List.drop_one, List.tail_cons] at h
  obtain ⟨found, follows, rfl⟩ := Option.map_eq_some_iff.1 h
  split at follows
  · rename_i none
    rw [none]
    rw [follow] at follows
    split at follows
    · rw [if_pos (.inl rfl)] at follows
      cases follows
      rfl
    · cases follows
  · rw [follow_names proper follows, List.append_nil, List.reverse_reverse]

/-- A path in normal form that leads anywhere consists of names. -/
theorem exists_normalize_eq_of_names? {p : Path} {there : List String} (h : d.names? p.normalize = some there) :
    ∃ names, (∀ name ∈ names, IsName name) ∧ p.normalize = pathOf names := by
  have absolute : p.normalize.isAbsolute = true := by
    rw [names?] at h
    split at h
    · rename_i absolute
      exact absolute
    · cases h
  exact exists_normalize_eq ((isAbsolute_normalize p).symm.trans absolute)

/-- A path in normal form that leads anywhere is the one path of what it leads to. -/
theorem canonical?_normalize {p c : Path} (h : d.canonical? p.normalize = some c) : c = p.normalize := by
  obtain ⟨there, found, rfl⟩ := Option.map_eq_some_iff.1 h
  obtain ⟨names, proper, normal⟩ := exists_normalize_eq_of_names? found
  rw [normal] at found ⊢
  rw [names?_pathOf proper found]

/-- A file is somewhere. -/
theorem exists_names?_of_isFile {p : Path} (h : d.isFile p = true) :
    ∃ names, d.names? p = some names ∧ (d.root.at? names).any DiskNode.isFile = true := by
  rw [isFile, node?] at h
  cases leads : d.names? p with
  | none =>
    rw [leads] at h
    cases h
  | some names =>
    rw [leads] at h
    exact ⟨names, rfl, h⟩

/-- The identity of the file at a path in normal form is the path. -/
theorem ofPath_normalize (d : Disk) (p : Path) : FileId.ofPath d p.normalize = ⟨p.normalize.text⟩ := by
  rw [FileId.ofPath]
  cases h : d.canonical? p.normalize with
  | none => rfl
  | some c => rw [Option.getD_some, canonical?_normalize h]

/-- What leads to a place, leads there by names. -/
theorem isName_of_follow {pieces : List (List Char)} {cs : List Char}
    (between : ∀ piece ∈ pieces, piece ∈ Text.splitWhere (· == '/') cs) {here there : List String}
    (proper : ∀ name ∈ here, IsName name) (h : d.follow here pieces = some there) : ∀ name ∈ there, IsName name := by
  induction pieces generalizing here with
  | nil =>
    cases h
    exact proper
  | cons piece pieces ih =>
    have later := fun piece member => between piece (List.mem_cons_of_mem _ member)
    rw [follow] at h
    split at h
    · split at h
      · exact ih later proper h
      · rename_i notBlank
        split at h
        · exact ih later (fun name member => proper name (List.mem_of_mem_tail member)) h
        · rename_i notDots
          dsimp only at h
          split at h
          · refine ih later ?_ h
            intro name member
            rcases List.mem_cons.1 member with rfl | before
            · exact isName_of_mem_splitWhere (between piece List.mem_cons_self) (fun h => notBlank (.inl h))
                (fun h => notBlank (.inr h)) notDots
            · exact proper name before
          · cases h
    · cases h

theorem isName_of_names? {p : Path} {names : List String} (h : d.names? p = some names) :
    ∀ name ∈ names, IsName name := by
  rw [names?] at h
  split at h
  · obtain ⟨there, follows, rfl⟩ := Option.map_eq_some_iff.1 h
    intro name member
    have between : ∀ piece ∈ (Text.splitWhere (· == '/') p.text.toList).drop 1,
        piece ∈ Text.splitWhere (· == '/') p.text.toList := fun piece => List.mem_of_mem_drop
    have none : ∀ name ∈ ([] : List String), IsName name := by
      intro name member
      cases member
    exact isName_of_follow between none follows name (List.mem_reverse.1 member)
  · cases h

end Disk

/-! ## Walks -/

theorem exists_toList_pathOf_append (names : List String) (name : String) :
    ∃ front, (Disk.pathOf (names ++ [name])).text.toList = front ++ name.toList := by
  cases names with
  | nil =>
    refine ⟨['/'], ?_⟩
    rw [toList_pathOf, List.nil_append, List.map_singleton, List.intercalate_singleton]
    rfl
  | cons first names =>
    refine ⟨(Disk.pathOf (first :: names)).text.toList ++ ['/'], ?_⟩
    rw [Disk.pathOf, Disk.pathOf, String.intercalate_append_of_ne_nil (List.cons_ne_nil _ _) (List.cons_ne_nil _ _),
      String.intercalate_singleton, String.toList_append, String.toList_append, String.toList_append,
      String.toList_append, List.append_assoc, List.append_assoc, List.append_assoc]
    rfl

/-- A name joined to a path of names is one more name. -/
theorem join_pathOf {names : List String} (proper : ∀ name ∈ names, IsName name) {name : String}
    (isName : IsName name) : (Disk.pathOf names).join name = Disk.pathOf (names ++ [name]) := by
  have relative : (Path.mk name).isAbsolute = false := by
    rw [isAbsolute, beq_eq_false_iff_ne]
    intro first
    exact isName.noSlash (List.mem_of_head? first)
  rw [join, relative, if_neg Bool.false_ne_true]
  rcases List.eq_nil_or_concat names with rfl | ⟨init, last, rfl⟩
  · have ends : (Disk.pathOf []).text.toList.getLast? = some '/' := rfl
    rw [if_pos (by simp [ends]), Disk.pathOf, Disk.pathOf, List.nil_append, String.intercalate_singleton,
      String.intercalate_nil, String.append_empty]
  · have isLast := proper last (by simp)
    obtain ⟨front, chars⟩ := exists_toList_pathOf_append init last
    have ends : (Disk.pathOf (init ++ [last])).text.toList.getLast? ≠ some '/' := by
      rw [chars, List.getLast?_append]
      obtain ⟨c, more⟩ := Option.isSome_iff_exists.1 (List.getLast?_isSome.2 isLast.nonempty)
      rw [more, Option.some_or]
      rintro ⟨⟩
      exact isLast.noSlash (List.mem_of_getLast? more)
    have some : (Disk.pathOf (init ++ [last])).text.isEmpty = false := by
      rw [String.isEmpty_eq_false_iff]
      intro none
      have starts := toList_pathOf (init ++ [last])
      rw [none] at starts
      cases starts
    rw [if_neg (by simp [some, ends]), Disk.pathOf, Disk.pathOf,
      String.intercalate_append_of_ne_nil (by simp) (List.cons_ne_nil _ _), String.intercalate_singleton,
      String.append_assoc, String.append_assoc, String.append_assoc]

namespace DiskNode

theorem mem_walkEntries {admits : String → Path → DiskNode → Bool} {place : Path}
    {entries : List (String × DiskNode)} {name : String} {n : DiskNode} (member : (name, n) ∈ entries)
    (admitted : admits name (place.join name) n = true) {x : Path × Bool}
    (h : x ∈ n.walk admits (place.join name)) : x ∈ walkEntries admits place entries := by
  induction entries with
  | nil => cases member
  | cons entry entries ih =>
    obtain ⟨other, node⟩ := entry
    rw [walkEntries]
    rcases List.mem_cons.1 member with same | later
    · cases same
      rw [if_pos admitted]
      exact List.mem_append_left _ h
    · exact List.mem_append_right _ (ih later)

/-- A walk that admits everything comes to every place that names lead to. -/
theorem mem_walk {admits : String → Path → DiskNode → Bool} (all : ∀ name place node, admits name place node = true)
    {names before : List String} (proper : ∀ name ∈ before ++ names, IsName name) {n m : DiskNode}
    (h : n.at? names = some m) : (Disk.pathOf (before ++ names), m.isFile) ∈ n.walk admits (Disk.pathOf before) := by
  induction names generalizing before n with
  | nil =>
    cases h
    rw [List.append_nil]
    cases m with
    | file content => exact List.mem_cons_self
    | directory entries => exact List.mem_cons_self
  | cons name names ih =>
    obtain ⟨below, child, leads⟩ := Option.bind_eq_some_iff.1 h
    obtain ⟨⟨other, node⟩, found, rfl⟩ := Option.map_eq_some_iff.1 child
    have member := List.mem_of_find?_eq_some found
    have same := List.find?_some found
    obtain rfl : other = name := eq_of_beq same
    have whole : before ++ other :: names = (before ++ [other]) ++ names := by simp
    cases n with
    | file content => cases member
    | directory entries =>
      refine List.mem_cons_of_mem _ (mem_walkEntries member (all ..) ?_)
      rw [join_pathOf (fun name member => proper name (List.mem_append_left _ member)) (proper other (by simp)), whole]
      rw [whole] at proper
      exact ih proper leads

end DiskNode

namespace Disk

/-- The one path of a file that some path leads to is listed. -/
theorem exists_mem_files {d : Disk} {p : Path} (isFile : d.isFile p = true) :
    ∃ c, d.canonical? p = some c ∧ c ∈ d.files := by
  obtain ⟨names, found, isFile⟩ := exists_names?_of_isFile isFile
  obtain ⟨node, leads, isFile⟩ := (Option.any_eq_true ..).1 isFile
  have proper : ∀ name ∈ [] ++ names, IsName name := isName_of_names? found
  have visited := DiskNode.mem_walk (fun _ _ _ => rfl) proper leads
  rw [isFile] at visited
  refine ⟨pathOf names, ?_, List.mem_map.2 ⟨_, List.mem_filter.2 ⟨visited, rfl⟩, rfl⟩⟩
  rw [canonical?, found]
  rfl

end Disk

end ShaderAnalysis
