import ShaderAnalysis.Proofs.Outline.GroupVariable
import ShaderAnalysis.Proofs.Outline.Kernel

/-!
# No declaration is recorded twice

The passes over plain code overlap: a texture is also a global variable, a kernel also a function. Most passes record
only what is not recorded yet. Those that do not check this record symbols of a kind that no other pass records, each
with its name at another place, apart from constant buffers, which are recorded as structs; but in front of the name of
a struct stands another word than in front of that of a constant buffer. So no two symbols at the top of the outline
have kind, name and selection in common (`nodup_rootKeys`).
-/

namespace ShaderAnalysis

/-- What tells a declaration from all others. -/
def Symbol.key (s : Symbol) : SymbolKind × String × Span :=
  (s.kind, s.name, s.selection)

namespace Outline

open Scanner

/-- What tells the symbols at the top of the outline from each other. -/
def rootKeys (t : Outline) : List (Option (SymbolKind × String × Span)) :=
  t.roots.map fun id => (t.get? id).map Symbol.key

variable {text : String} {t : Outline} {known known' : SymbolKind × String × Span → Prop} {s : Symbol}

theorem some_mem_rootKeys {key : SymbolKind × String × Span} :
    some key ∈ t.rootKeys ↔ ∃ id ∈ t.roots, ∃ s, t.get? id = some s ∧ s.key = key := by
  simp only [rootKeys, List.mem_map, Option.map_eq_some_iff]

theorem records_iff_mem_rootKeys {name : String} {kind : SymbolKind} {selection : Span} :
    t.records none name kind selection = true ↔ some (kind, name, selection) ∈ t.rootKeys := by
  rw [records_iff, some_mem_rootKeys]
  simp only [Symbol.key, Prod.mk.injEq, level]

/-! ## Steps -/

theorem rootKeys_push_top (forest : t.IsForest) (covers : s.span.covers s.selection = true) :
    (t.push none s).1.rootKeys = t.rootKeys ++ [some s.key] := by
  have old : ∀ id ∈ t.roots, ((t.push none s).1.get? id).map Symbol.key = (t.get? id).map Symbol.key := by
    intro id isRoot
    rw [get?_push, if_neg (Nat.ne_of_lt (forest.root id isRoot).1)]
  rw [rootKeys, roots_push, if_pos rfl, List.map_append, List.map_congr_left old, List.map_singleton,
    get?_push_top covers, Option.map_some, rootKeys]

theorem rootKeys_push_below (forest : t.IsForest) (above : Nat) (s : Symbol) :
    (t.push (some above) s).1.rootKeys = t.rootKeys := by
  rw [rootKeys, roots_push, if_neg (Option.some_ne_none above)]
  refine List.map_congr_left fun id isRoot => ?_
  rw [get?_push, if_neg (Nat.ne_of_lt (forest.root id isRoot).1)]

theorem rootKeys_setDetail (t : Outline) (id : Nat) (detail : String) :
    (t.setDetail id detail).rootKeys = t.rootKeys := by
  rw [rootKeys, roots_setDetail]
  refine List.map_congr_left fun other _ => ?_
  rw [get?_setDetail, Option.map_map]
  refine congrArg (Option.map · _) (funext fun s => ?_)
  dsimp only [Function.comp_apply]
  split <;> rfl

/-- The symbols at the top are pairwise different, and something is known of each. -/
structure IsDistinct (known : SymbolKind × String × Span → Prop) (t : Outline) : Prop where
  forest : t.IsForest
  nodup : t.rootKeys.Nodup
  known : ∀ key, some key ∈ t.rootKeys → known key

theorem isDistinct_empty : empty.IsDistinct known where
  forest := isForest_empty
  nodup := List.nodup_nil
  known := fun _ member => absurd member List.not_mem_nil

namespace IsDistinct

theorem mono (distinct : t.IsDistinct known) (weaker : ∀ key, known key → known' key) : t.IsDistinct known' :=
  { distinct with known := fun key member => weaker key (distinct.known key member) }

theorem add (distinct : t.IsDistinct known) (covers : s.span.covers s.selection = true)
    (fresh : some s.key ∉ t.rootKeys) : (t.push none s).1.IsDistinct fun key => known key ∨ key = s.key where
  forest := distinct.forest.push none s
  nodup := by
    rw [rootKeys_push_top distinct.forest covers, List.nodup_append]
    refine ⟨distinct.nodup, List.nodup_singleton _, fun key member other isNew same => fresh ?_⟩
    rwa [← List.mem_singleton.1 isNew, ← same]
  known := by
    intro key member
    rw [rootKeys_push_top distinct.forest covers] at member
    rcases List.mem_append.1 member with old | new
    · exact .inl (distinct.known key old)
    · exact .inr (Option.some.inj (List.mem_singleton.1 new))

theorem addAll (distinct : t.IsDistinct known) (id : Nat) (members : List Symbol) :
    (t.addAll id members).IsDistinct known := by
  induction members generalizing t with
  | nil => exact distinct
  | cons m members ih =>
    rw [addAll_cons]
    have same := rootKeys_push_below distinct.forest id m
    exact ih ⟨distinct.forest.push .., same ▸ distinct.nodup, same ▸ distinct.known⟩

theorem setDetail (distinct : t.IsDistinct known) (id : Nat) (detail : String) :
    (t.setDetail id detail).IsDistinct known where
  forest := distinct.forest.setDetail id detail
  nodup := (rootKeys_setDetail t id detail).symm ▸ distinct.nodup
  known := (rootKeys_setDetail t id detail).symm ▸ distinct.known

/-- A pass that does not check what is recorded already, but records nothing of what is known, and nothing twice. -/
theorem foldl {α : Type} {xs : List α} {key : α → SymbolKind × String × Span} {step : Outline → α → Outline}
    (distinct : t.IsDistinct known) (nodup : (xs.map key).Nodup) (fresh : ∀ x ∈ xs, ¬known (key x))
    (steps : ∀ x ∈ xs, ∀ known (t : Outline), t.IsDistinct known → ¬known (key x) →
      (step t x).IsDistinct fun k => known k ∨ k = key x) :
    (xs.foldl step t).IsDistinct fun k => known k ∨ ∃ x ∈ xs, k = key x := by
  induction xs generalizing t known with
  | nil => exact distinct.mono fun _ => .inl
  | cons x xs ih =>
    obtain ⟨isNew, nodup⟩ := List.nodup_cons.1 nodup
    have next := steps x List.mem_cons_self _ t distinct (fresh x List.mem_cons_self)
    refine (ih next nodup (fun y member => ?_) fun y member => steps y (List.mem_cons_of_mem _ member)).mono ?_
    · rintro (old | same)
      · exact fresh y (List.mem_cons_of_mem _ member) old
      · exact isNew (same ▸ List.mem_map_of_mem member)
    · rintro k ((old | rfl) | ⟨y, member, rfl⟩)
      · exact .inl old
      · exact .inr ⟨x, List.mem_cons_self, rfl⟩
      · exact .inr ⟨y, List.mem_cons_of_mem _ member, rfl⟩

/-- A pass that records symbols of one kind, each by the name that stands in it. -/
theorem foldl_names {α : Type} {scanner : Scanner α} {c : Cursor} {step : Outline → Found α → Outline}
    (distinct : t.IsDistinct known) (name : α → Lexeme) (kind : SymbolKind)
    (inside : ∀ found ∈ scanner.findAll c, found.span.covers (name found.value).span = true ∧
      (name found.value).span.start < (name found.value).span.stop)
    (fresh : ∀ found ∈ scanner.findAll c, ¬known (kind, (name found.value).text, (name found.value).span))
    (steps : ∀ found ∈ scanner.findAll c, ∀ known (t : Outline), t.IsDistinct known →
      ¬known (kind, (name found.value).text, (name found.value).span) →
      (step t found).IsDistinct fun k => known k ∨ k = (kind, (name found.value).text, (name found.value).span)) :
    ((scanner.findAll c).foldl step t).IsDistinct fun k => known k ∨ k.1 = kind := by
  have nodup : ((scanner.findAll c).map fun found =>
      (kind, (name found.value).text, (name found.value).span)).Nodup := by
    refine .of_map (fun key => key.2.2) ?_
    rw [List.map_map]
    exact nodup_names inside
  refine (distinct.foldl nodup fresh steps).mono ?_
  rintro k (old | ⟨found, -, rfl⟩)
  · exact .inl old
  · exact .inr rfl

end IsDistinct

/-! ## Passes -/

/-- The word in front of the name of a struct. -/
theorem typeWord_of_structHeader {span : Span} (start : span.start = 0) {found : Found Lexeme}
    (member : found ∈ (Source.ofText text).findAll span structHeader) :
    typeWord (Lexical.mask text) found.value.span.start = "struct" := by
  obtain ⟨c, d, stands, ran, -⟩ := exists_place_of_mem_findAll member (startsApart_zero start)
  obtain ⟨keyword, isStruct, types⟩ := types_structHeader ran
  rw [← isStruct]
  exact (stands.types types).typeWord

/-- The word in front of the name of a constant buffer. -/
theorem typeWord_of_bufferHeader {span : Span} (start : span.start = 0) {found : Found (Lexeme × Lexeme)}
    (member : found ∈ (Source.ofText text).findAll span bufferHeader) :
    typeWord (Lexical.mask text) found.value.2.span.start ≠ "struct" := by
  obtain ⟨c, d, stands, ran, -⟩ := exists_place_of_mem_findAll member (startsApart_zero start)
  obtain ⟨isBuffer, types⟩ := types_bufferHeader ran
  have typeWord : typeWord (Lexical.mask text) _ = _ := (stands.types types).typeWord
  rw [typeWord]
  rcases isBuffer with is | is <;> rw [is] <;> decide

/-- A construct is recorded and then what is declared in it. -/
theorem IsDistinct.declare (distinct : t.IsDistinct known) (covers : s.span.covers s.selection = true)
    (fresh : some s.key ∉ t.rootKeys) {P : List Symbol → Prop} {t' : Outline}
    (filled : ∃ members, t' = (t.push none s).1.addAll t.size members ∧ P members) :
    t'.IsDistinct fun key => known key ∨ key = s.key := by
  obtain ⟨members, rfl, -⟩ := filled
  exact (distinct.add covers fresh).addAll t.size members

/-- The structs are known by the words in front of their names. -/
theorem isDistinct_addStructs (distinct : t.IsDistinct fun key =>
      key.1 = .struct ∧ typeWord (Lexical.mask text) key.2.2.start = "struct") {span : Span} (start : span.start = 0) :
    (t.addStructs (.ofText text) span).IsDistinct fun key =>
      key.1 = .struct ∧ typeWord (Lexical.mask text) key.2.2.start = "struct" := by
  refine List.foldlRecOn _ _ distinct fun t distinct found member => ?_
  dsimp only
  split
  · exact distinct
  · rename_i region body braces
    split
    · exact distinct
    · rename_i isNew
      refine (distinct.declare ?_ ?_ (exists_addMembers braces _ _)).mono ?_
      · exact covers_of_braceAt? braces (covers_name ensures_structHeader member).1
      · exact fun isOld => isNew (records_iff_mem_rootKeys.2 isOld)
      · rintro key (old | rfl)
        · exact old
        · exact ⟨rfl, typeWord_of_structHeader start member⟩

/-- No constant buffer is one of the structs before it, nor one of the other constant buffers. -/
theorem isDistinct_addBuffers (distinct : t.IsDistinct fun key =>
      key.1 = .struct ∧ typeWord (Lexical.mask text) key.2.2.start = "struct") {span : Span} (start : span.start = 0) :
    (t.addBuffers (.ofText text) span).IsDistinct fun key => key.1 = .struct := by
  have inside : ∀ found ∈ (Source.ofText text).findAll span bufferHeader,
      found.span.covers found.value.2.span = true ∧ found.value.2.span.start < found.value.2.span.stop :=
    fun _ member => covers_name ensures_bufferHeader member
  refine (distinct.foldl_names (fun h : Lexeme × Lexeme => h.2) .struct inside
    (fun found member known => typeWord_of_bufferHeader start member known.2) ?_).mono ?_
  · intro found member known t distinct isNew
    dsimp only
    split
    · exact distinct.mono fun _ => .inl
    · rename_i region body braces
      refine (distinct.declare ?_ ?_ (exists_addBufferMembers braces _ _)).mono fun _ isKnown => isKnown
      · exact covers_of_braceAt? braces (inside found member).1
      · exact fun isOld => isNew (distinct.known _ isOld)
  · rintro key (⟨isStruct, -⟩ | isStruct) <;> exact isStruct

theorem isDistinct_addFunctions (distinct : t.IsDistinct fun key => key.1 = .struct ∨ key.1 = .function) (span : Span)
    (declared : List String) :
    (t.addFunctions (.ofText text) span declared).IsDistinct fun key => key.1 = .struct ∨ key.1 = .function := by
  refine List.foldlRecOn _ _ distinct fun t distinct found member => ?_
  dsimp only
  split
  · exact distinct
  · split
    · exact distinct
    · rename_i region body braces
      split
      · exact distinct
      · rename_i isNew
        obtain ⟨start, name, -⟩ := places_of_mem_findAll member
        obtain ⟨members, filled, -⟩ := exists_addLocals braces _ t.size declared
        rw [addParameters_eq_addAll]
        refine filled ▸ (((distinct.add ?_ ?_).addAll _ _).addAll _ _).mono ?_
        · exact start ▸ covers_of_braceAt? braces name
        · exact fun isOld => isNew (records_iff_mem_rootKeys.2 isOld)
        · rintro key (old | rfl)
          · exact old
          · exact .inr rfl

/-- A kernel is recorded itself only if there is no function of its name. -/
theorem isDistinct_addKernels (distinct : t.IsDistinct fun key => key.1 = .struct ∨ key.1 = .function) (span : Span) :
    (t.addKernels (.ofText text) span).IsDistinct fun key => key.1 = .struct ∨ key.1 = .function := by
  refine List.foldlRecOn _ _ distinct fun t distinct found member => ?_
  dsimp only
  split
  · exact distinct.setDetail _ _
  · rename_i isNew
    refine (distinct.add (covers_name ensures_kernelHeader member).1 fun isOld => ?_).mono ?_
    · obtain ⟨id, isRoot, s, here, same⟩ := some_mem_rootKeys.1 isOld
      simp only [Symbol.key, Prod.mk.injEq] at same
      have isOther := List.find?_eq_none.1 isNew id isRoot
      rw [here, Option.any_some, same.1, same.2.1] at isOther
      exact isOther (by simp)
    · rintro key (old | rfl)
      · exact old
      · exact .inr rfl

theorem isDistinct_addMacros (distinct : t.IsDistinct fun key => key.1 = .struct ∨ key.1 = .function) (span : Span) :
    (t.addMacros (.ofText text) span).IsDistinct fun key => key.1 ≠ .module := by
  have inside : ∀ found ∈ (Source.ofText text).findAll span macroDefinition,
      found.span.covers found.value.name.span = true ∧ found.value.name.span.start < found.value.name.span.stop :=
    fun _ member => covers_name ensures_macroDefinition member
  refine (distinct.foldl_names MacroDefinition.name .constant inside (fun _ _ known => by simp at known) ?_).mono ?_
  · intro found member known t distinct isNew
    refine (distinct.add ?_ ?_).mono fun _ isKnown => isKnown
    · exact (inside found member).1
    · exact fun isOld => isNew (distinct.known _ isOld)
  · rintro key ((isStruct | isFunction) | isConstant) isModule
    · cases isStruct.symm.trans isModule
    · cases isFunction.symm.trans isModule
    · cases isConstant.symm.trans isModule

/-- An included path is not empty. -/
theorem inclusion_eq_some {c d : Cursor} {path : Lexeme} (ran : inclusion c = some (path, d)) :
    path.text.toList ≠ [] := by
  obtain ⟨_, c₁, -, ran⟩ := bind_eq_some.1 ran
  obtain ⟨_, c₂, -, ran⟩ := bind_eq_some.1 ran
  obtain ⟨_, c₃, -, ran⟩ := bind_eq_some.1 ran
  obtain ⟨path', c₄, isPath, ran⟩ := bind_eq_some.1 ran
  obtain ⟨_, c₅, -, ran⟩ := bind_eq_some.1 ran
  cases ran
  exact (text_of_run isPath).1

theorem isDistinct_addInclusions (distinct : t.IsDistinct fun key => key.1 ≠ .module) (span : Span) :
    (t.addInclusions (.ofText text) span).IsDistinct fun _ => True := by
  have inside : ∀ found ∈ (Source.ofText text).findAll span inclusion,
      found.span.covers found.value.span = true ∧ found.value.span.start < found.value.span.stop := by
    intro found member
    obtain ⟨⟨_, rfl, areRead⟩, -⟩ := mem_findAll_ofSpan ensures_inclusion member
    obtain ⟨c, d, -, -, ran, -⟩ := mem_findFrom member
    have isPath := List.mem_singleton_self found.value
    exact ⟨areRead.covers isPath, areRead.start_lt_stop isPath (inclusion_eq_some ran)⟩
  refine (distinct.foldl_names id .module inside (fun _ _ known => known rfl) ?_).mono fun _ _ => trivial
  intro found member known t distinct isNew
  refine (distinct.add ?_ ?_).mono fun _ isKnown => isKnown
  · exact (inside found member).1
  · exact fun isOld => isNew (distinct.known _ isOld)

/-! ### Variables -/

section

variable {span : Span}

theorem isDistinct_addVariable (distinct : t.IsDistinct fun _ => True) {name : Lexeme} (detail : String)
    (covers : span.covers name.span = true) : (t.addVariable name detail span).IsDistinct fun _ => True := by
  unfold addVariable
  split
  · exact distinct
  · rename_i isNew
    refine (distinct.add covers fun isOld => isNew ?_).mono fun _ _ => trivial
    exact records_iff_mem_rootKeys.2 isOld

theorem isDistinct_addGlobals (distinct : t.IsDistinct fun _ => True) (span : Span) (declared : List String) :
    (t.addGlobals (.ofText text) span declared).IsDistinct fun _ => True := by
  refine List.foldlRecOn _ _ distinct fun t distinct found member => ?_
  dsimp only
  split
  · exact distinct
  · obtain ⟨⟨_, ⟨rfl, isWord⟩, areRead⟩, -⟩ := mem_findAll_ofSpan ensures_globalDeclaration member
    have isRead := areRead.isDeclarator isWord "" .variable (areRead.stop_le (by simp)) (Nat.le_refl _)
    exact isDistinct_addVariable distinct _ isRead.selection

theorem isDistinct_addResources {scanner : Scanner ResourceDeclaration} (reads : Ensures [] scanner IsResource)
    (isWanted : Found ResourceDeclaration → Bool) (detail : ResourceDeclaration → String)
    (distinct : t.IsDistinct fun _ => True) (span : Span) :
    (((Source.ofText text).findAll span scanner).foldl (fun t found =>
      if isWanted found then t.addVariable found.value.name (detail found.value) found.span else t) t).IsDistinct
      fun _ => True := by
  refine List.foldlRecOn _ _ distinct fun t distinct found member => ?_
  split
  · exact isDistinct_addVariable distinct _ (covers_name reads member).1
  · exact distinct

theorem isDistinct_addGroupVariables (distinct : t.IsDistinct fun _ => True) :
    (t.addGroupVariables (.ofText text) (Source.ofText text).whole).IsDistinct fun _ => True :=
  List.foldlRecOn _ _ distinct fun _ distinct _ member =>
    isDistinct_addVariable distinct _ (covers_name ensures_groupVariable member).1

end

/-! ## Plain code -/

/-- No two symbols at the top of the outline of plain code have kind, name and selection in common. -/
theorem nodup_rootKeys (text : String) : (extract .hlsl text).rootKeys.Nodup := by
  let source := Source.ofText text
  let isTopLevel (found : Found ResourceDeclaration) := source.brackets.isTopLevel found.span.start
  have start : source.whole.start = 0 := rfl
  -- from the last pass to the first one
  refine (isDistinct_addResources ensures_writable isTopLevel ResourceDeclaration.typeText ?_ source.whole).nodup
  refine isDistinct_addGroupVariables ?_
  refine isDistinct_addResources (ensures_resourceDeclaration typedBuffers) isTopLevel ResourceDeclaration.typeText ?_ _
  refine isDistinct_addResources (ensures_resourceDeclaration readableTextures) isTopLevel (fun d => d.type.text) ?_ _
  refine isDistinct_addGlobals (isDistinct_addInclusions (isDistinct_addMacros (isDistinct_addKernels ?_ _) _) _) _ _
  refine isDistinct_addFunctions ((isDistinct_addBuffers ?_ start).mono fun _ => .inl) _ _
  exact isDistinct_addStructs isDistinct_empty start

/-- The kernel is the function, and the texture is the global variable. -/
example : (extract .hlsl "[numthreads(1,1,1)]\nvoid k() \x7b\x7d\nTexture2D t;\n").rootKeys =
    [some (.function, "k", .between 25 26), some (.variable, "t", .between 42 43)] := by
  decide +kernel

end Outline

end ShaderAnalysis
