import ShaderAnalysis.Files.Disk

/-!
# Normal paths

The names in a path have no slashes and are no dots. Components are read as they are written (`components_pathOf`,
`components_ofComponents`), a path in normal form among them (`components_normalize`), and an absolute path in
normal form is the root with names behind it (`exists_normalize_eq`).
-/

namespace ShaderAnalysis

/-! ## Pieces -/

namespace Text

variable {p : Char → Bool}

theorem splitWhere_of_not {piece : List Char} (h : ∀ c ∈ piece, p c = false) : splitWhere p piece = [piece] := by
  induction piece with
  | nil => rfl
  | cons c piece ih =>
    have here := h c List.mem_cons_self
    rw [splitWhere, ih fun c member => h c (List.mem_cons_of_mem _ member)]
    simp [here]

theorem splitWhere_append_cons {piece : List Char} (h : ∀ c ∈ piece, p c = false) {separator : Char}
    (separates : p separator = true) (rest : List Char) :
    splitWhere p (piece ++ separator :: rest) = piece :: splitWhere p rest := by
  induction piece with
  | nil => simp [splitWhere, separates]
  | cons c piece ih =>
    have here := h c List.mem_cons_self
    rw [List.cons_append, splitWhere, ih fun c member => h c (List.mem_cons_of_mem _ member)]
    simp [here]

theorem splitWhere_intercalate {separator : Char} (separates : p separator = true) {pieces : List (List Char)}
    (nonempty : pieces ≠ []) (h : ∀ piece ∈ pieces, ∀ c ∈ piece, p c = false) :
    splitWhere p ([separator].intercalate pieces) = pieces := by
  induction pieces with
  | nil => exact absurd rfl nonempty
  | cons piece pieces ih =>
    have here := h piece List.mem_cons_self
    cases pieces with
    | nil => rw [List.intercalate_singleton, splitWhere_of_not here]
    | cons next pieces =>
      rw [List.intercalate_cons_cons, List.append_assoc, List.singleton_append, splitWhere_append_cons here separates]
      rw [ih (List.cons_ne_nil _ _) fun piece member => h piece (List.mem_cons_of_mem _ member)]

theorem splitWhere_ne_nil (p : Char → Bool) (cs : List Char) : splitWhere p cs ≠ [] := by
  cases cs with
  | nil => exact List.cons_ne_nil _ _
  | cons c cs =>
    rw [splitWhere]
    split
    · exact List.cons_ne_nil _ _
    · split <;> exact List.cons_ne_nil _ _

theorem not_of_mem_splitWhere {cs piece : List Char} (h : piece ∈ splitWhere p cs) : ∀ c ∈ piece, p c = false := by
  induction cs generalizing piece with
  | nil =>
    rw [List.mem_singleton.1 h]
    exact fun c member => absurd member List.not_mem_nil
  | cons c cs ih =>
    rw [splitWhere] at h
    split at h
    · rcases List.mem_cons.1 h with rfl | later
      · exact fun c member => absurd member List.not_mem_nil
      · exact ih later
    · rename_i here
      split at h
      · rename_i none
        exact absurd none (splitWhere_ne_nil p cs)
      · rename_i first pieces split
        rcases List.mem_cons.1 h with rfl | later
        · intro d member
          rcases List.mem_cons.1 member with rfl | member
          · exact Bool.eq_false_iff.2 here
          · exact ih (by rw [split]; exact List.mem_cons_self) d member
        · exact ih (by rw [split]; exact List.mem_cons_of_mem _ later)

end Text

namespace Path

/-! ## Names -/

/-- What can be the name of a file. -/
structure IsName (name : String) : Prop where
  nonempty : name.toList ≠ []
  noSlash : '/' ∉ name.toList
  notDot : name.toList ≠ ['.']
  notDots : name.toList ≠ ['.', '.']

theorem IsName.not_slash {name : String} (h : IsName name) : ∀ c ∈ name.toList, (c == '/') = false := by
  intro c member
  refine beq_eq_false_iff_ne.2 ?_
  rintro rfl
  exact h.noSlash member

theorem isName_of_mem_splitWhere {cs piece : List Char} (h : piece ∈ Text.splitWhere (· == '/') cs)
    (nonempty : piece ≠ []) (notDot : piece ≠ ['.']) (notDots : piece ≠ ['.', '.']) :
    IsName (String.ofList piece) := by
  constructor <;> rw [String.toList_ofList]
  · exact nonempty
  · intro slash
    cases Text.not_of_mem_splitWhere h '/' slash
  · exact notDot
  · exact notDots

/-- A component that can stand behind others: a name or a double dot. -/
def Component.IsInner (c : Component) : Prop :=
  c = .parent ∨ ∃ name, IsName name ∧ c = .normal name

namespace Component.IsInner

variable {c : Component}

theorem ne_root (h : c.IsInner) : c ≠ .root := by
  rintro rfl
  rcases h with same | ⟨name, -, same⟩ <;> cases same

theorem text_ne_nil (h : c.IsInner) : c.text.toList ≠ [] := by
  rcases h with rfl | ⟨name, isName, rfl⟩
  · exact List.cons_ne_nil _ _
  · exact isName.nonempty

theorem text_ne_dot (h : c.IsInner) : c.text.toList ≠ ['.'] := by
  rcases h with rfl | ⟨name, isName, rfl⟩
  · decide
  · exact isName.notDot

theorem text_not_slash (h : c.IsInner) : ∀ d ∈ c.text.toList, (d == '/') = false := by
  rcases h with rfl | ⟨name, isName, rfl⟩
  · simp [text]
  · exact isName.not_slash

theorem ofPiece_text (h : c.IsInner) : ofPiece c.text.toList = c := by
  rcases h with rfl | ⟨name, isName, rfl⟩
  · rfl
  · exact (if_neg isName.notDots).trans (congrArg normal String.ofList_toList)

end Component.IsInner

/-- The components of pieces are names and double dots. -/
theorem isInner_of_mem_componentsOfPieces {cs : List Char} {c : Component}
    (h : c ∈ componentsOfPieces (Text.splitWhere (· == '/') cs)) : c.IsInner := by
  obtain ⟨piece, member, rfl⟩ := List.mem_map.1 h
  obtain ⟨member, proper⟩ := List.mem_filter.1 member
  simp only [Bool.and_eq_true, bne_iff_ne, ne_eq] at proper
  rw [Component.ofPiece]
  split
  · exact .inl rfl
  · rename_i notDots
    exact .inr ⟨_, isName_of_mem_splitWhere member proper.1 proper.2 notDots, rfl⟩

theorem componentsOfPieces_text {parts : List Component} (inner : ∀ c ∈ parts, c.IsInner) :
    componentsOfPieces (parts.map fun c => c.text.toList) = parts := by
  induction parts with
  | nil => rfl
  | cons c parts ih =>
    have here := inner c List.mem_cons_self
    rw [componentsOfPieces, List.map_cons,
      List.filter_cons_of_pos (by simp [here.text_ne_nil, here.text_ne_dot]), List.map_cons, here.ofPiece_text]
    congr 1
    exact ih fun c member => inner c (List.mem_cons_of_mem _ member)

theorem componentsOfPieces_names {names : List String} (proper : ∀ name ∈ names, IsName name) :
    componentsOfPieces (names.map String.toList) = names.map .normal := by
  have inner : ∀ c ∈ names.map Component.normal, c.IsInner := by
    intro c member
    obtain ⟨name, isIn, rfl⟩ := List.mem_map.1 member
    exact .inr ⟨name, proper name isIn, rfl⟩
  have texts := componentsOfPieces_text inner
  rwa [List.map_map] at texts

/-! ## Paths of names -/

theorem toList_pathOf (names : List String) :
    (Disk.pathOf names).text.toList = '/' :: ['/'].intercalate (names.map String.toList) := by
  rw [Disk.pathOf, String.toList_append, String.toList_intercalate]
  rfl

theorem isAbsolute_pathOf (names : List String) : (Disk.pathOf names).isAbsolute = true := by
  rw [isAbsolute, toList_pathOf]
  rfl

/-- Behind the root, the pieces of a path of names are the names. -/
theorem pieces_pathOf {names : List String} (proper : ∀ name ∈ names, IsName name) :
    Text.splitWhere (· == '/') (Disk.pathOf names).text.toList =
      [] :: if names = [] then [[]] else names.map String.toList := by
  rw [toList_pathOf]
  have noSlash : ∀ c ∈ ([] : List Char), (c == '/') = false := by
    intro c member
    cases member
  refine (Text.splitWhere_append_cons noSlash rfl _).trans ?_
  congr 1
  split
  · rename_i none
    rw [none]
    rfl
  · rename_i some
    refine Text.splitWhere_intercalate rfl (by simpa using some) ?_
    intro piece member
    obtain ⟨name, isIn, rfl⟩ := List.mem_map.1 member
    exact (proper name isIn).not_slash

theorem components_pathOf {names : List String} (proper : ∀ name ∈ names, IsName name) :
    (Disk.pathOf names).components = .root :: names.map .normal := by
  have behind : componentsOfPieces ([] :: if names = [] then [[]] else names.map String.toList) = names.map .normal := by
    split
    · rename_i none
      rw [none]
      rfl
    · exact componentsOfPieces_names proper
  rw [components, pieces_pathOf proper, isAbsolute_pathOf, if_pos rfl, behind]
  rfl

/-! ## Relative paths -/

/-- A dot at the very start is a component in front of those of the pieces. -/
theorem components_of_relative {p : Path} (relative : p.isAbsolute = false) :
    p.components = componentsOfPieces (Text.splitWhere (· == '/') p.text.toList) ∨
      p.components = .current :: componentsOfPieces (Text.splitWhere (· == '/') p.text.toList) := by
  rw [components, relative, if_neg Bool.false_ne_true]
  split
  · exact .inr rfl
  · exact .inl rfl

theorem isInner_or_current {p : Path} (relative : p.isAbsolute = false) {c : Component} (h : c ∈ p.components) :
    c.IsInner ∨ c = .current := by
  rcases components_of_relative relative with parts | parts
  · rw [parts] at h
    exact .inl (isInner_of_mem_componentsOfPieces h)
  · rw [parts] at h
    rcases List.mem_cons.1 h with dot | later
    · exact .inr dot
    · exact .inl (isInner_of_mem_componentsOfPieces later)

/-- A path is absolute if the root is one of its components. -/
theorem isAbsolute_iff_mem {p : Path} : p.isAbsolute = true ↔ .root ∈ p.components := by
  constructor
  · intro absolute
    rw [components, if_pos absolute]
    exact List.mem_append_left _ List.mem_cons_self
  · intro root
    rw [← Bool.not_eq_false]
    intro relative
    rcases isInner_or_current relative root with inner | current
    · exact inner.ne_root rfl
    · cases current

theorem pieces_ofComponents {c : Component} {rest : List Component} (inner : ∀ d ∈ c :: rest, d.IsInner) :
    Text.splitWhere (· == '/') (ofComponents (c :: rest)).text.toList =
      (c :: rest).map fun d => d.text.toList := by
  have written : (ofComponents (c :: rest)).text = "/".intercalate ((c :: rest).map Component.text) := by
    have notRoot := (inner c List.mem_cons_self).ne_root
    cases c with
    | root => exact absurd rfl notRoot
    | _ => rfl
  rw [written, String.toList_intercalate, List.map_map]
  refine Text.splitWhere_intercalate rfl (List.cons_ne_nil _ _) ?_
  intro piece member
  obtain ⟨d, isIn, rfl⟩ := List.mem_map.1 member
  exact (inner d isIn).text_not_slash

/-- The first piece of an absolute path is empty. -/
theorem head?_pieces_of_isAbsolute {p : Path} (absolute : p.isAbsolute = true) :
    (Text.splitWhere (· == '/') p.text.toList).head? = some [] := by
  cases chars : p.text.toList with
  | nil => rfl
  | cons c cs =>
    have slash : (c == '/') = true := by simpa [isAbsolute, chars] using absolute
    rw [Text.splitWhere, if_pos slash]
    rfl

/-- Names and double dots are read as they are written. -/
theorem components_ofComponents {parts : List Component} (inner : ∀ c ∈ parts, c.IsInner) :
    (ofComponents parts).components = parts := by
  cases parts with
  | nil => rfl
  | cons c rest =>
    have here := inner c List.mem_cons_self
    have pieces := pieces_ofComponents inner
    have relative : (ofComponents (c :: rest)).isAbsolute ≠ true := by
      intro absolute
      have first := head?_pieces_of_isAbsolute absolute
      rw [pieces] at first
      exact here.text_ne_nil (Option.some.inj first)
    rw [components, if_neg relative, pieces, if_neg (by simpa using here.text_ne_dot), componentsOfPieces_text inner]
    rfl

/-! ## Normal form -/

/-- The components so far, innermost first: no dot is among them, and double dots only stand on double dots. -/
structure IsSettled (stack : List Component) : Prop where
  noCurrent : .current ∉ stack
  ordered : stack.Pairwise fun inner outer => inner = .parent → outer = .parent

/-- With neither a name nor the root on top, there are only double dots. -/
theorem IsSettled.eq_parent {stack : List Component} (h : IsSettled stack)
    (noName : ∀ name rest, stack ≠ .normal name :: rest) (noRoot : ∀ rest, stack ≠ .root :: rest) {c : Component}
    (member : c ∈ stack) : c = .parent := by
  cases stack with
  | nil => cases member
  | cons top rest =>
    cases top with
    | root => exact absurd rfl (noRoot rest)
    | current => exact absurd List.mem_cons_self h.noCurrent
    | normal name => exact absurd rfl (noName name rest)
    | parent =>
      rcases List.mem_cons.1 member with rfl | below
      · rfl
      · exact (List.pairwise_cons.1 h.ordered).1 c below rfl

theorem IsSettled.normalizeStep {stack : List Component} (h : IsSettled stack) (c : Component) :
    IsSettled (normalizeStep stack c) := by
  unfold Path.normalizeStep
  split
  · exact h
  · exact ⟨fun member => h.noCurrent (List.mem_cons_of_mem _ member), (List.pairwise_cons.1 h.ordered).2⟩
  · exact h
  · rename_i notCurrent noName noRoot
    refine ⟨?_, List.pairwise_cons.2 ⟨?_, h.ordered⟩⟩
    · intro member
      rcases List.mem_cons.1 member with rfl | member
      · exact notCurrent rfl
      · exact h.noCurrent member
    · -- a double dot is only put where there is nothing that it could leave
      rintro outer member rfl
      exact h.eq_parent (fun name rest => noName name rest rfl) (fun rest => noRoot rest rfl) member

theorem IsSettled.foldl {stack : List Component} (h : IsSettled stack) (parts : List Component) :
    IsSettled (parts.foldl Path.normalizeStep stack) := by
  induction parts generalizing stack with
  | nil => exact h
  | cons c parts ih => exact ih (h.normalizeStep c)

theorem isSettled_normalizeComponents (parts : List Component) : IsSettled (normalizeComponents parts).reverse := by
  rw [normalizeComponents, List.reverse_reverse]
  exact IsSettled.foldl ⟨List.not_mem_nil, .nil⟩ parts

theorem mem_normalizeStep {stack : List Component} {c d : Component} (h : d ∈ normalizeStep stack c) :
    d = c ∨ d ∈ stack := by
  unfold normalizeStep at h
  split at h
  · exact .inr h
  · exact .inr (List.mem_cons_of_mem _ h)
  · exact .inr h
  · exact List.mem_cons.1 h

theorem mem_foldl_normalizeStep {parts stack : List Component} {c : Component}
    (h : c ∈ parts.foldl normalizeStep stack) : c ∈ parts ∨ c ∈ stack := by
  induction parts generalizing stack with
  | nil => exact .inr h
  | cons d parts ih =>
    rcases ih h with later | now
    · exact .inl (List.mem_cons_of_mem _ later)
    · rcases mem_normalizeStep now with rfl | before
      · exact .inl List.mem_cons_self
      · exact .inr before

theorem mem_of_mem_normalizeComponents {parts : List Component} {c : Component} (h : c ∈ normalizeComponents parts) :
    c ∈ parts := by
  rcases mem_foldl_normalizeStep (List.mem_reverse.1 h) with member | none
  · exact member
  · cases none

/-- Names and double dots on top of the root leave names on top of the root. -/
theorem exists_foldl_normalizeStep {parts : List Component}
    (h : ∀ c ∈ parts, c.IsInner) {names : List String}
    (proper : ∀ name ∈ names, IsName name) :
    ∃ names' : List String, (∀ name ∈ names', IsName name) ∧
      parts.foldl normalizeStep (names.map .normal ++ [.root]) = names'.map .normal ++ [.root] := by
  induction parts generalizing names with
  | nil => exact ⟨names, proper, rfl⟩
  | cons c parts ih =>
    have later := fun c member => h c (List.mem_cons_of_mem _ member)
    rcases h c List.mem_cons_self with rfl | ⟨name, isName, rfl⟩
    · cases names with
      | nil => exact ih later proper
      | cons name names => exact ih later fun name member => proper name (List.mem_cons_of_mem _ member)
    · have more : ∀ other ∈ name :: names, IsName other := by
        intro other member
        rcases List.mem_cons.1 member with rfl | member
        · exact isName
        · exact proper other member
      exact ih later more

theorem ofComponents_names (names : List String) : ofComponents (.root :: names.map .normal) = Disk.pathOf names := by
  rw [ofComponents, List.map_map]
  congr 3
  exact List.map_id _

theorem exists_normalizeComponents_eq {p : Path} (absolute : p.isAbsolute = true) :
    ∃ names : List String, (∀ name ∈ names, IsName name) ∧
      normalizeComponents p.components = .root :: names.map .normal := by
  have none : ∀ name ∈ ([] : List String), IsName name := by
    intro name member
    cases member
  have inner : ∀ c ∈ componentsOfPieces (Text.splitWhere (· == '/') p.text.toList), c.IsInner :=
    fun c => isInner_of_mem_componentsOfPieces
  obtain ⟨names, proper, folded⟩ := exists_foldl_normalizeStep inner none
  refine ⟨names.reverse, fun name member => proper name (List.mem_reverse.1 member), ?_⟩
  rw [normalizeComponents, components, absolute, if_pos rfl, List.singleton_append, List.foldl_cons]
  change (List.foldl normalizeStep (List.map Component.normal [] ++ [Component.root]) _).reverse = _
  rw [folded, List.reverse_append, List.map_reverse]
  rfl

/-- An absolute path in normal form is the root with names behind it. -/
theorem exists_normalize_eq {p : Path} (absolute : p.isAbsolute = true) :
    ∃ names, (∀ name ∈ names, IsName name) ∧ p.normalize = Disk.pathOf names := by
  obtain ⟨names, proper, parts⟩ := exists_normalizeComponents_eq absolute
  exact ⟨names, proper, by rw [normalize, parts, ofComponents_names]⟩

theorem isInner_of_mem_normalizeComponents {p : Path} (relative : p.isAbsolute = false) {c : Component}
    (h : c ∈ normalizeComponents p.components) : c.IsInner := by
  rcases isInner_or_current relative (mem_of_mem_normalizeComponents h) with inner | rfl
  · exact inner
  · exact absurd (List.mem_reverse.2 h) (isSettled_normalizeComponents _).noCurrent

/-- The components of a path in normal form are what is left of the components of the path. -/
theorem components_normalize (p : Path) : p.normalize.components = normalizeComponents p.components := by
  cases absolute : p.isAbsolute with
  | true =>
    obtain ⟨names, proper, parts⟩ := exists_normalizeComponents_eq absolute
    rw [normalize, parts, ofComponents_names, components_pathOf proper]
  | false => exact components_ofComponents fun c => isInner_of_mem_normalizeComponents absolute

/-- A path is absolute in normal form if it is absolute. -/
theorem isAbsolute_normalize (p : Path) : p.normalize.isAbsolute = p.isAbsolute := by
  cases absolute : p.isAbsolute with
  | true =>
    obtain ⟨names, -, normal⟩ := exists_normalize_eq absolute
    rw [normal, isAbsolute_pathOf]
  | false =>
    rw [← Bool.not_eq_true, isAbsolute_iff_mem, components_normalize]
    intro root
    exact (isInner_of_mem_normalizeComponents absolute root).ne_root rfl

theorem foldl_normalizeStep_names (names : List String) (stack : List Component) :
    (names.map Component.normal).foldl normalizeStep stack = (names.map .normal).reverse ++ stack := by
  induction names generalizing stack with
  | nil => rfl
  | cons name names ih =>
    rw [List.map_cons, List.foldl_cons, ih, List.reverse_cons, List.append_assoc]
    rfl

theorem normalize_pathOf {names : List String} (proper : ∀ name ∈ names, IsName name) :
    (Disk.pathOf names).normalize = Disk.pathOf names := by
  rw [normalize, components_pathOf proper, normalizeComponents, List.foldl_cons]
  change ofComponents (List.foldl normalizeStep [Component.root] _).reverse = _
  rw [foldl_normalizeStep_names, List.reverse_append, List.reverse_reverse, ← ofComponents_names]
  rfl

end Path

end ShaderAnalysis
