import Mathlib.Data.List.Find
import ShaderAnalysis.Proofs.Outline.Parameters

/-!
# Kernel marks

Thread counts in front of a function are a mark of it. The pass for marks knows functions by their names alone: a
mark gives its detail to the first function of the name (`get?_markKernel`). So a function keeps the detail that it
was recorded with unless it is the first one of its name, and then the last mark of the name decides
(`get?_foldl_markKernel`). A mark goes to the function that it stands in front of if and only if no function of the
same name comes first (`marks_own_function_iff`).
-/

namespace ShaderAnalysis

namespace Outline

open Scanner

/-! ## One mark -/

/-- The thread counts as they are shown. -/
def KernelHeader.detail (h : KernelHeader) : String :=
  "kernel [" ++ h.x.text ++ ", " ++ h.y.text ++ ", " ++ h.z.text ++ "]"

/-- The first function of this name at the top. -/
def firstFunction? (t : Outline) (name : String) : Option Nat :=
  t.roots.find? fun id => (t.get? id).any fun s => s.kind == .function && s.name == name

/-- Marks the first function of the name, or records the kernel itself. -/
def markKernel (t : Outline) (found : Found KernelHeader) : Outline :=
  match t.firstFunction? found.value.name.text with
  | some id => t.setDetail id found.value.detail
  | none => t.add none ⟨found.value.name.text, found.value.detail, .function, found.span, found.value.name.span⟩

variable {t t' : Outline} {id : Nat} {s : Symbol} {found : Found KernelHeader} {name : String}

theorem firstFunction?_eq_some (h : t.firstFunction? name = some id) :
    id ∈ t.roots ∧ ∃ s, t.get? id = some s ∧ s.kind = .function ∧ s.name = name := by
  refine ⟨List.mem_of_find?_eq_some h, ?_⟩
  have isIt := List.find?_some h
  obtain ⟨s, here, isIt⟩ := (Option.any_eq_true ..).1 isIt
  rw [Bool.and_eq_true, beq_iff_eq, beq_iff_eq] at isIt
  exact ⟨s, here, isIt⟩

/-- A change of a detail hides no function. -/
theorem firstFunction?_setDetail (t : Outline) (id : Nat) (detail name : String) :
    (t.setDetail id detail).firstFunction? name = t.firstFunction? name := by
  rw [firstFunction?, firstFunction?, roots_setDetail]
  congr 1
  funext other
  rw [get?_setDetail]
  cases t.get? other with
  | none => rfl
  | some s =>
    simp only [Option.map_some, Option.any_some]
    split <;> rfl

/-- A new symbol comes behind those that are there. -/
theorem firstFunction?_add (forest : t.IsForest) (s : Symbol) (h : t.firstFunction? name = some id) :
    (t.add none s).firstFunction? name = some id := by
  have same : t.roots.find? (fun other => ((t.add none s).get? other).any fun s =>
      s.kind == .function && s.name == name) = some id := by
    rw [← h, firstFunction?]
    refine List.find?_congr fun other member => ?_
    rw [add, get?_push, if_neg (Nat.ne_of_lt (forest.root other member).1)]
  rw [firstFunction?, add, roots_push, if_pos rfl, List.find?_append]
  rw [add] at same
  rw [same, Option.some_or]

theorem IsForest.markKernel (forest : t.IsForest) (found : Found KernelHeader) : (t.markKernel found).IsForest := by
  rw [Outline.markKernel]
  split
  · exact forest.setDetail ..
  · exact forest.push ..

theorem firstFunction?_markKernel (forest : t.IsForest) (found : Found KernelHeader)
    (h : t.firstFunction? name = some id) : (t.markKernel found).firstFunction? name = some id := by
  rw [markKernel]
  split
  · rw [firstFunction?_setDetail, h]
  · exact firstFunction?_add forest _ h

/-- A mark gives its detail to the first function of its name, and changes no other symbol. -/
theorem get?_markKernel (found : Found KernelHeader) (here : t.get? id = some s) :
    (t.markKernel found).get? id = some (if t.firstFunction? found.value.name.text = some id then
      { s with detail := found.value.detail } else s) := by
  rw [markKernel]
  split
  · rename_i first isFirst
    rw [get?_setDetail, here, Option.map_some, isFirst]
    simp only [Option.some.injEq]
  · rename_i isNew
    rw [add, get?_push_of_some here, isNew, if_neg (Option.some_ne_none id ·.symm)]

/-! ## All marks -/

theorem firstFunction?_foldl_markKernel (marks : List (Found KernelHeader)) (forest : t.IsForest)
    (h : t.firstFunction? name = some id) : (marks.foldl markKernel t).firstFunction? name = some id :=
  (List.foldlRecOn (motive := fun t : Outline => t.IsForest ∧ t.firstFunction? name = some id) marks markKernel
    ⟨forest, h⟩ fun _ before found _ =>
      ⟨before.1.markKernel found, firstFunction?_markKernel before.1 found before.2⟩).2

/-- The detail of a function of this name behind some marks: that of the last mark of its name. -/
def markedDetail (name detail : String) (marks : List (Found KernelHeader)) : String :=
  marks.foldl (fun detail found => if found.value.name.text = name then found.value.detail else detail) detail

/-- Marks change the detail of the first function of each name, and nothing else. -/
theorem get?_foldl_markKernel (marks : List (Found KernelHeader)) (forest : t.IsForest) (here : t.get? id = some s)
    {first : Nat} (isFirst : t.firstFunction? s.name = some first) :
    (marks.foldl markKernel t).get? id = some (if first = id then
      { s with detail := markedDetail s.name s.detail marks } else s) := by
  induction marks generalizing t s with
  | nil =>
    rw [List.foldl_nil, here]
    split <;> rfl
  | cons found marks ih =>
    have marked := get?_markKernel found here
    have stays := firstFunction?_markKernel forest found isFirst
    have isIt : t.firstFunction? found.value.name.text = some id ↔ found.value.name.text = s.name ∧ first = id := by
      constructor
      · intro h
        obtain ⟨-, s', here', -, name⟩ := firstFunction?_eq_some h
        cases here.symm.trans here'
        rw [← name, isFirst] at h
        exact ⟨name.symm, Option.some.inj h⟩
      · rintro ⟨same, rfl⟩
        rw [same, isFirst]
    rw [List.foldl_cons]
    by_cases mine : t.firstFunction? found.value.name.text = some id
    · rw [if_pos mine] at marked
      obtain ⟨same, isSame⟩ := isIt.1 mine
      rw [ih (forest.markKernel found) marked stays, if_pos isSame, if_pos isSame, markedDetail, markedDetail,
        List.foldl_cons, if_pos same]
    · rw [if_neg mine] at marked
      rw [ih (forest.markKernel found) marked stays]
      split
      · rename_i isSame
        rw [markedDetail, markedDetail, List.foldl_cons, if_neg fun same => mine (isIt.2 ⟨same, isSame⟩)]
      · rfl

/-! ## The function pass -/

/-- Functions are at the top, and no detail of a function has a square bracket. -/
def AreUnmarked (t : Outline) : Prop :=
  ∀ id s, t.get? id = some s → s.kind = .function → id ∈ t.roots ∧ '[' ∉ s.detail.toList

theorem areUnmarked_empty : empty.AreUnmarked := by
  intro id s here
  cases here

theorem AreUnmarked.add_root (unmarked : t.AreUnmarked) (s : Symbol)
    (plain : s.kind = .function → '[' ∉ s.detail.toList) : (t.push none s).1.AreUnmarked := by
  intro id s' here kind
  rw [roots_push, if_pos rfl]
  rw [get?_push] at here
  split at here
  · rename_i new
    cases here
    exact ⟨List.mem_append_right _ (new ▸ List.mem_singleton_self _), plain kind⟩
  · obtain ⟨isRoot, noBracket⟩ := unmarked id s' here kind
    exact ⟨List.mem_append_left _ isRoot, noBracket⟩

theorem roots_addAll (t : Outline) (id : Nat) (members : List Symbol) : (t.addAll id members).roots = t.roots := by
  induction members generalizing t with
  | nil => rfl
  | cons m members ih =>
    rw [addAll_cons, ih, roots_push, if_neg (Option.some_ne_none id)]

theorem AreUnmarked.fill (unmarked : t.AreUnmarked) {text : String} {span : Span}
    (filled : IsFilled text span id t t') : t'.AreUnmarked := by
  obtain ⟨members, rfl, -, holds⟩ := filled
  intro other s here kind
  rw [roots_addAll]
  exact unmarked other s (get?_of_addAll (fun m member => (holds m member).2) here (kind ▸ rfl)) kind

theorem areUnmarked_addStructs (source : Source) (span : Span) (unmarked : t.AreUnmarked) :
    (t.addStructs source span).AreUnmarked := by
  refine List.foldlRecOn _ _ unmarked fun t unmarked found _ => ?_
  dsimp only
  split
  · exact unmarked
  · split
    · exact unmarked
    · exact (unmarked.add_root _ fun kind => by cases kind).fill (isFilled_addMembers ..)

theorem areUnmarked_addBuffers (source : Source) (span : Span) (unmarked : t.AreUnmarked) :
    (t.addBuffers source span).AreUnmarked := by
  refine List.foldlRecOn _ _ unmarked fun t unmarked found _ => ?_
  dsimp only
  split
  · exact unmarked
  · exact (unmarked.add_root _ fun kind => by cases kind).fill (isFilled_addBufferMembers ..)

/-- The detail of a function is made of words. -/
theorem not_mem_detail {h : FunctionHeader} {c d : Cursor} {gap blanks list tail : List Char}
    (isRead : h.IsRead c d gap blanks list tail) :
    '[' ∉ (h.returns.text ++ match h.semantic with | some s => " : " ++ s.text | none => "").toList := by
  have word {cs : List Char} (isWord : Text.IsWord cs) : '[' ∉ cs :=
    fun member => absurd (isWord.2 '[' member) (by decide)
  have semantic := isRead.isSemantic
  rw [String.toList_append, List.mem_append]
  rintro (isReturns | isSemantic)
  · exact word isRead.isReturns isReturns
  · cases is : h.semantic with
    | none =>
      rw [is] at isSemantic
      cases isSemantic
    | some s =>
      rw [is, String.toList_append, List.mem_append] at isSemantic
      rcases isSemantic with isColon | isWord
      · revert isColon
        decide
      · exact word (semantic s is) isWord

theorem areUnmarked_addFunctions (source : Source) (span : Span) (declared : List String) (unmarked : t.AreUnmarked) :
    (t.addFunctions source span declared).AreUnmarked := by
  refine List.foldlRecOn _ _ unmarked fun t unmarked found member => ?_
  dsimp only
  split
  · exact unmarked
  · split
    · exact unmarked
    · split
      · exact unmarked
      · obtain ⟨c, d, -, -, ran, -⟩ := mem_findFrom member
        obtain ⟨gap, blanks, list, tail, isRead⟩ := isRead_functionHeader ran
        refine ((unmarked.add_root _ fun _ => ?_).fill (isFilled_addParameters ..)).fill (isFilled_addLocals ..)
        exact not_mem_detail isRead

/-- The outline of plain code up to its functions. -/
def functionPass (text : String) : Outline :=
  let source := Source.ofText text
  ((empty.addStructs source source.whole).addBuffers source source.whole).addFunctions source source.whole
    (source.declaredTypes source.whole)

/-- The marks of a text. -/
def kernelMarks (text : String) : List (Found KernelHeader) :=
  (Source.ofText text).findAll (Source.ofText text).whole kernelHeader

theorem areUnmarked_functionPass (text : String) : (functionPass text).AreUnmarked :=
  areUnmarked_addFunctions _ _ _ (areUnmarked_addBuffers _ _ (areUnmarked_addStructs _ _ areUnmarked_empty))

theorem isOrderly_functionPass (text : String) :
    (functionPass text).IsOrderly (Symbol.IsExact (Lexical.mask text)) :=
  isOrderly_addFunctions (hasRoom_ofText text) _
    (isOrderly_addBuffers (hasRoom_ofText text) (isOrderly_addStructs (hasRoom_ofText text) (isOrderly_empty _)))

/-- Behind the marks, symbols keep their details. -/
theorem keeps_marked (text : String) :
    ((kernelMarks text).foldl markKernel (functionPass text)).Keeps (extract .hlsl text) :=
  (addCode_addsRoots empty (.ofText text) (Source.ofText text).whole).keeps

/-! ## Which function a mark goes to -/

theorem exists_firstFunction? (unmarked : t.AreUnmarked) {f : Symbol} (here : t.get? id = some f)
    (kind : f.kind = .function) : ∃ first, t.firstFunction? f.name = some first := by
  rw [← Option.isSome_iff_exists, firstFunction?, List.find?_isSome]
  exact ⟨id, (unmarked id f here kind).1, by simp [here, kind]⟩

/-- Of the functions of one name at the top, none comes before the first one. -/
theorem firstFunction?_le (nested : t.IsNested) {first other : Nat} (h : t.firstFunction? name = some first)
    (isRoot : other ∈ t.roots) {g : Symbol} (here : t.get? other = some g) (kind : g.kind = .function)
    (isNamed : g.name = name) : first ≤ other := by
  obtain ⟨-, before, after, roots, none⟩ := List.find?_eq_some_iff_append.1 h
  have ascending := nested.ascending .none
  rw [level, roots] at ascending
  rw [roots] at isRoot
  rcases List.mem_append.1 isRoot with earlier | later
  · have isNot := none other earlier
    simp [here, kind, isNamed] at isNot
  · rcases List.mem_cons.1 later with rfl | behind
    · exact Nat.le_refl _
    · exact Nat.le_of_lt ((List.pairwise_cons.1 (List.pairwise_append.1 ascending).2.1).1 other behind)

/-- No function of this name comes before the symbol. -/
def IsFirst (t : Outline) (name : String) (id : Nat) : Prop :=
  ∀ other g, t.get? other = some g → g.kind = .function → g.name = name → id ≤ other

theorem firstFunction?_eq_some_iff (nested : t.IsNested) (unmarked : t.AreUnmarked) {f : Symbol}
    (here : t.get? id = some f) (kind : f.kind = .function) :
    t.firstFunction? f.name = some id ↔ t.IsFirst f.name id := by
  constructor
  · intro isFirst other g isOther kind' same
    exact firstFunction?_le nested isFirst (unmarked other g isOther kind').1 isOther kind' same
  · intro le
    obtain ⟨first, isFirst⟩ := exists_firstFunction? unmarked here kind
    obtain ⟨-, g, isG, kind', same⟩ := firstFunction?_eq_some isFirst
    have := firstFunction?_le nested isFirst (unmarked id f here kind).1 here kind rfl
    have := le first g isG kind' same
    rw [isFirst, Option.some.injEq]
    omega

/-- A mark in front of a function makes its detail that of the function, and changes no other function, if and only if
no function of the same name comes before it. In the end the first function of a name has the detail of the last mark
of the name, and every other function has the detail that it was recorded with. -/
theorem marks_own_function_iff (text : String) {before after : List (Found KernelHeader)} {found : Found KernelHeader}
    (isMark : kernelMarks text = before ++ found :: after) {id : Nat} {f : Symbol}
    (here : (functionPass text).get? id = some f) (kind : f.kind = .function)
    (own : found.value.name.span = f.selection) :
    let t := before.foldl markKernel (functionPass text)
    ((∀ other s, t.get? other = some s → s.kind = .function → (t.markKernel found).get? other =
        some (if other = id then { s with detail := found.value.detail } else s)) ↔
      (functionPass text).IsFirst f.name id) ∧
      ((functionPass text).IsFirst f.name id → (extract .hlsl text).get? id =
        some { f with detail := markedDetail f.name f.detail (kernelMarks text) }) ∧
      (¬(functionPass text).IsFirst f.name id → (extract .hlsl text).get? id = some f) := by
  intro t
  have nested := (isOrderly_functionPass text).nested
  have unmarked := areUnmarked_functionPass text
  obtain ⟨first, first_eq⟩ := exists_firstFunction? unmarked here kind
  have isFirst_iff : (functionPass text).IsFirst f.name id ↔ first = id := by
    rw [← firstFunction?_eq_some_iff nested unmarked here kind, first_eq, Option.some.injEq]
  -- the mark has the name of the function, for that is what the text has there
  have sameName : found.value.name.text = f.name := by
    have member : found ∈ kernelMarks text := isMark ▸ List.mem_append_right _ List.mem_cons_self
    obtain ⟨⟨_, ⟨rfl, -⟩, areRead⟩, -⟩ := mem_findAll_ofSpan ensures_kernelHeader member
    rw [← areRead.slice _ (List.mem_singleton_self _), own]
    exact ((isOrderly_functionPass text).named id f here).1
  have marked := get?_foldl_markKernel before nested.forest here first_eq
  have goesTo : t.firstFunction? found.value.name.text = some first := by
    rw [sameName]
    exact firstFunction?_foldl_markKernel before nested.forest first_eq
  have kept := keeps_marked text id _ (get?_foldl_markKernel (kernelMarks text) nested.forest here first_eq)
  rw [isFirst_iff]
  refine ⟨⟨fun exactly => ?_, ?_⟩, fun isFirst => by rw [kept, if_pos isFirst],
    fun notFirst => by rw [kept, if_neg notFirst]⟩
  · by_contra notFirst
    rw [if_neg notFirst] at marked
    have changed := exactly id f marked kind
    have unchanged := get?_markKernel found marked
    rw [goesTo, if_neg fun same => notFirst (Option.some.inj same)] at unchanged
    rw [unchanged, if_pos rfl] at changed
    -- a mark has a square bracket, and what functions are recorded with has none
    have detail : f.detail = found.value.detail := congrArg Symbol.detail (Option.some.inj changed)
    refine (unmarked id f here kind).2 ?_
    rw [detail, KernelHeader.detail]
    simp
  · rintro rfl other s isHere -
    rw [get?_markKernel found isHere, goesTo]
    simp only [Option.some.injEq, eq_comm]

/-- A kernel. -/
def oneKernel : String :=
  "[numthreads(8, 8, 1)]\nvoid CS() \x7b\x7d\n"

/-- Its mark goes to it. -/
theorem mark_oneKernel :
    (functionPass oneKernel).get? 0 = some ⟨"CS", "void", .function, .between 22 34, .between 27 29⟩ ∧
      ∃ found, kernelMarks oneKernel = [] ++ found :: [] ∧ found.value.name.span = .between 27 29 ∧
        (extract .hlsl oneKernel).get? 0 =
          some ⟨"CS", found.value.detail, .function, .between 22 34, .between 27 29⟩ := by
  have here : (functionPass oneKernel).get? 0 =
      some ⟨"CS", "void", .function, .between 22 34, .between 27 29⟩ := by decide +kernel
  have marks : (kernelMarks oneKernel).map (fun found => (found.value.name.text, found.value.name.span)) =
      [("CS", .between 27 29)] := by decide +kernel
  obtain ⟨found, isMarks, same⟩ := List.map_eq_singleton_iff.1 marks
  obtain ⟨name, own⟩ := Prod.mk.inj same
  have isMark : kernelMarks oneKernel = [] ++ found :: [] := isMarks
  refine ⟨here, found, isMark, own, ?_⟩
  have marked := (marks_own_function_iff oneKernel isMark here rfl own).2.1 fun other _ _ _ _ => Nat.zero_le other
  rw [marked, isMarks, markedDetail, List.foldl_cons, List.foldl_nil, if_pos name]

/-- A kernel behind another function of its name. -/
def secondKernel : String :=
  "void f(int a) \x7b\x7d\n[numthreads(1,1,1)]\nvoid f() \x7b\x7d\n"

/-- The mark of the second function goes to the first one. -/
theorem mark_secondKernel : ¬∀ (text : String) before after found id f,
    kernelMarks text = before ++ found :: after → (functionPass text).get? id = some f → f.kind = .function →
    found.value.name.span = f.selection →
    ∀ other s, (before.foldl markKernel (functionPass text)).get? other = some s → s.kind = .function →
      ((before.foldl markKernel (functionPass text)).markKernel found).get? other =
        some (if other = id then { s with detail := found.value.detail } else s) := by
  intro exactly
  have marks : (kernelMarks secondKernel).map (fun found => (found.value.name.text, found.value.name.span,
      found.value.detail)) = [("f", .between 42 43, "kernel [1, 1, 1]")] := by decide +kernel
  obtain ⟨found, isMarks, same⟩ := List.map_eq_singleton_iff.1 marks
  have isMark : kernelMarks secondKernel = [] ++ found :: [] := isMarks
  simp only [Prod.mk.injEq] at same
  obtain ⟨name, own, detail⟩ := same
  have first : (functionPass secondKernel).get? 0 =
      some ⟨"f", "void", .function, .between 0 16, .between 5 6⟩ := by decide +kernel
  have second : (functionPass secondKernel).get? 2 =
      some ⟨"f", "void", .function, .between 37 48, .between 42 43⟩ := by decide +kernel
  have goesTo : (functionPass secondKernel).firstFunction? "f" = some 0 := by decide +kernel
  have kept := exactly secondKernel [] [] found 2 _ isMark second rfl own 0
  rw [List.foldl_nil] at kept
  have unchanged := kept _ first rfl
  rw [get?_markKernel found first, name, goesTo, if_pos rfl, if_neg (by decide), detail] at unchanged
  exact absurd unchanged (by decide)

end Outline

end ShaderAnalysis
