import ShaderAnalysis.Proofs.Outline.Parameters

/-!
# Functions in shader documents

In a shader document functions are put below the region that they stand in, which may end inside their braces. The
span of a region lies in that of the block around it, and all these spans end where the text can be cut; so the
functions of a shader document are accounted for as those of plain code are (`accounts_addShaderDocument`).
-/

namespace ShaderAnalysis

namespace Span

/-- The span covers the contents of these braces and ends with them. -/
def IsBraced (text : String) (span body : Span) : Prop :=
  ∃ id r, 0 < id ∧ (Brackets.ofText text).regions[id]? = some r ∧ r.kind = .brace ∧ body = r.inner ∧
    span.start ≤ body.start ∧ span.stop = r.stop

/-- The span covers these contents and ends where the text can be cut. -/
def Surrounds (text : String) (span body : Span) : Prop :=
  span.covers body = true ∧ Text.isBoundary text span.stop = true

variable {text : String} {outer body header region inner : Span}

theorem IsBraced.surrounds (braced : outer.IsBraced text body) : outer.Surrounds text body := by
  obtain ⟨id, r, bracketed, here, kind, rfl, start, stop⟩ := braced
  have arena := Brackets.isArenaOf_ofText text
  have := arena.bounds id r bracketed here
  refine ⟨?_, stop ▸ arena.isBoundary_stop bracketed here⟩
  simp only [Region.inner, kind, covers_iff, start_between, stop_between] at start ⊢
  split <;> omega

/-- What starts with a header and ends with the braces behind it. -/
theorem isBraced_between (braces : (Source.ofText text).brackets.braceAt? (header.stop - 1) = some (region, inner)) :
    (between header.start region.stop).IsBraced text inner := by
  obtain ⟨id, r, bracketed, here, start, kind, rfl, rfl⟩ := Source.braceAt?_ofText braces
  have := header.start_le_stop
  have := (Brackets.isArenaOf_ofText text).bounds id r bracketed here
  refine ⟨id, r, bracketed, here, kind, rfl, ?_, ?_⟩
  · simp only [Region.inner, kind, start_between]
    omega
  · simp only [Region.span, stop_between]
    omega

/-- Braces that open in braces end in them. -/
theorem IsBraced.covers_between (braced : outer.IsBraced text body) (within : body.covers header = true)
    (braces : (Source.ofText text).brackets.braceAt? (header.stop - 1) = some (region, inner)) :
    outer.covers (between header.start region.stop) = true := by
  obtain ⟨id, r, bracketed, here, kind, rfl, start, stop⟩ := braced
  obtain ⟨id', r', bracketed', here', start', -, rfl, rfl⟩ := Source.braceAt?_ofText braces
  have arena := Brackets.isArenaOf_ofText text
  have bounds := arena.bounds id r bracketed here
  have bounds' := arena.bounds id' r' bracketed' here'
  have ends : r.inner.stop ≤ r.stop := by
    simp only [Region.inner, kind, stop_between]
    split <;> omega
  have starts : r.inner.start = r.start + 1 := by
    simp only [Region.inner, kind, start_between]
  have := header.start_le_stop
  rw [covers_iff] at within
  have nested : r'.stop ≤ r.stop := by
    rcases Nat.lt_trichotomy id' id with earlier | rfl | later
    · have := arena.ascending id' id r' r bracketed' earlier here' here
      omega
    · cases here.symm.trans here'
      exact Nat.le_refl _
    · rcases arena.apart_or_within here here' later with apart | inside
      · omega
      · exact inside.2
  simp only [covers_iff, start_between, stop_between, Region.span]
  omega

end Span

namespace Outline

open Scanner

variable {text : String} {has : Symbol → List Symbol → Prop} {t t' : Outline} {blocks : List Block}

/-! ## Scanners -/

theorem moves_each (tests : List (Char → Bool)) : Moves (each tests) := by
  induction tests with
  | nil => exact moves_pure _
  | cons p tests ih => exact (moves_satisfy p).discard.bind fun _ => ih

theorem moves_spanOf {α : Type} {s : Scanner α} (moves : Moves s) : Moves (spanOf s) := by
  have offset : Moves Scanner.offset := moves_get.bind fun c => moves_pure c.offset
  exact offset.bind fun start => moves.bind fun value => offset.bind fun stop => moves_pure _

theorem moves_blockHeader (name : String) : Moves (blockHeader name) := by
  have keyword : Moves (keyword name) :=
    (moves_require _).bind fun _ => (moves_spanOf (moves_each _)).bind fun _ => moves_pure _
  exact keyword.bind fun span => moves_blanks.bind fun _ => (moves_char _).bind fun _ => moves_pure span

theorem ensures_wholeKeyword (names : List String) : Ensures [] (wholeKeyword names) fun w ls =>
    ls = [w] ∧ Text.IsWord w.text.toList := by
  refine .wordFromStart fun w isWord => .skip (moves_guard _) fun _ => ?_
  exact ensures_pure (List.Sublist.refl _) ⟨rfl, isWord⟩

/-- A keyword is all that is found. -/
theorem span_of_wholeKeyword {names : List String} {c d : Cursor} {w : Lexeme}
    (ran : wholeKeyword names c = some (w, d)) : w.span = .between c.offset d.offset := by
  obtain ⟨w', e, read, checked⟩ := bind_eq_some.1 ran
  obtain ⟨-, isRun, -⟩ := wordFromStart_eq_some read
  obtain ⟨_, e', guarded, returned⟩ := bind_eq_some.1 checked
  obtain ⟨-, same⟩ := guard_eq_some guarded
  cases returned
  rw [isRun.span, same]

theorem isBoundary_stop_of_wholeKeyword {names : List String} {span : Span} {found : Found Lexeme}
    (member : found ∈ (Source.ofText text).findAll span (wholeKeyword names)) :
    Text.isBoundary text found.span.stop = true := by
  obtain ⟨⟨_, ⟨rfl, isWord⟩, areRead⟩, -⟩ := mem_findAll_ofSpan (ensures_wholeKeyword names) member
  obtain ⟨c, d, -, -, ran, is⟩ := mem_findFrom member
  have slice := slice_of_isWord isWord (areRead.slice found.value (List.mem_singleton_self _))
  rw [is, ← span_of_wholeKeyword ran]
  refine (Text.isBoundary_of_slice fun empty => isWord.1 ?_).2
  rw [← slice, empty]
  rfl

/-! ## Blocks -/

/-- The block is a block of the outline, and this holds of its span and its contents. -/
def HasBlock (holds : Span → Span → Prop) (t : Outline) (b : Block) : Prop :=
  ∃ s, t.get? b.id = some s ∧ s.kind.isBlock = true ∧ holds s.span b.body

/-- The block can take what its contents declare. -/
def Takes (text : String) (t : Outline) (b : Block) : Prop :=
  TakesFrom text t b.body.start b.id

/-- The second outline comes from the first one by a pass that accounts for all functions and keeps all symbols, and
this holds of the blocks that the pass returns. -/
structure Returns (text : String) (has : Symbol → List Symbol → Prop) (holds : Outline → Block → Prop)
    (t t' : Outline) (blocks : List Block) : Prop where
  accounts : Accounts text has t'
  keeps : t.Keeps t'
  holds : ∀ b ∈ blocks, holds t' b

section

variable {holds : Span → Span → Prop} {b : Block} {id : Nat}

theorem HasBlock.keeps (block : t.HasBlock holds b) (keeps : t.Keeps t') : t'.HasBlock holds b := by
  obtain ⟨s, here, isBlock, placed⟩ := block
  exact ⟨s, keeps b.id s here, isBlock, placed⟩

theorem HasBlock.isPlain (block : t.HasBlock holds b) : t.IsPlain b.id := by
  obtain ⟨s, here, isBlock, -⟩ := block
  exact IsBlock.isPlain ⟨s, here, isBlock⟩

theorem HasBlock.takes (block : t.HasBlock holds b) : Takes text t b :=
  block.isPlain.takesFrom _

theorem returns_none {holds : Outline → Block → Prop} (accounts : Accounts text has t) :
    Returns text has holds t t [] :=
  ⟨accounts, .refl t, fun _ member => absurd member List.not_mem_nil⟩

theorem Returns.append {holds : Outline → Block → Prop} {t'' : Outline} {more : List Block}
    (first : Returns text has holds t t' blocks) (stays : ∀ b ∈ blocks, holds t' b → t'.Keeps t'' → holds t'' b)
    (second : Returns text has holds t' t'' more) : Returns text has holds t t'' (blocks ++ more) where
  accounts := second.accounts
  keeps := first.keeps.trans second.keeps
  holds := by
    intro b member
    rcases List.mem_append.1 member with old | new
    · exact stays b old (first.holds b old) second.keeps
    · exact second.holds b new

/-- A symbol that is put below a block, and covered by it, becomes a block there. -/
theorem returns_push (accounts : Accounts text has t) {outer : Symbol} (here : t.get? id = some outer)
    (plain : outer.kind.isCallable = false) {s : Symbol} (isBlock : s.kind.isBlock = true)
    (covers : outer.span.covers s.span = true) {body : Span} (placed : holds s.span body) :
    Returns text has (HasBlock holds) t (t.push (some id) s).1 [⟨t.size, body⟩] := by
  have new : (t.push (some id) s).1.get? t.size = some (t.fit (some id) s) := by rw [get?_push, if_pos rfl]
  have isNew : (t.push (some id) s).1.HasBlock holds ⟨t.size, body⟩ := by
    refine ⟨_, new, isBlock, ?_⟩
    rw [fit_some here, Span.clampTo_of_covers covers]
    exact placed
  have isPlain : s.kind.isCallable = false := by
    revert isBlock
    cases s.kind <;> simp [SymbolKind.isBlock, SymbolKind.isCallable]
  refine ⟨accounts.push (some id) isPlain fun above is => ?_, keeps_push t (some id) s, fun b member => ?_⟩
  · cases is
    exact IsPlain.takesFrom ⟨outer, here, plain⟩ _
  · rw [List.mem_singleton.1 member]
    exact isNew

theorem returns_addBlocks (accounts : Accounts text has t) {parent : Block}
    (around : t.HasBlock (Span.IsBraced text) parent) (name : String) (limit : Option Nat) :
    Returns text has (HasBlock (Span.IsBraced text)) t (t.addBlocks (.ofText text) parent name limit).1
      (t.addBlocks (.ofText text) parent name limit).2 := by
  refine List.foldlRecOn (motive := fun r : Outline × List Block =>
    Returns text has (HasBlock (Span.IsBraced text)) t r.1 r.2) _ _ (returns_none accounts) ?_
  rintro ⟨t', blocks⟩ before found member
  dsimp only
  split
  · exact before
  · split
    · exact before
    · rename_i region body braces
      split
      · exact before
      · have within := (mem_findAll_ofSpan (moves_blockHeader name).ensures member).2
        obtain ⟨outer, here, isBlock, braced⟩ := around.keeps before.keeps
        obtain ⟨_, isHere, plain⟩ := (around.keeps before.keeps).isPlain
        cases here.symm.trans isHere
        refine before.append (fun b _ block keeps => block.keeps keeps) ?_
        exact returns_push before.accounts here plain rfl (braced.covers_between within braces)
          (Span.isBraced_between braces)

theorem returns_addRegions (accounts : Accounts text has t) {level : Block}
    (around : t.HasBlock (Span.IsBraced text) level) :
    Returns text has (HasBlock (Span.Surrounds text)) t (t.addRegions (.ofText text) level).1
      (t.addRegions (.ofText text) level).2 := by
  refine List.foldlRecOn (motive := fun r : Outline × List Block =>
    Returns text has (HasBlock (Span.Surrounds text)) t r.1 r.2) _ _ (returns_none accounts) ?_
  rintro ⟨t', regions⟩ before found member
  dsimp only
  split
  · exact before
  · split
    · exact before
    · rename_i stop isStop
      have isEnd := List.mem_of_find?_eq_some isStop
      have behind : found.span.stop ≤ stop.span.start := by simpa using List.find?_some isStop
      have within := Span.covers_iff.1 (mem_findAll_ofSpan (ensures_wholeKeyword _) member).2
      have endsWithin := Span.covers_iff.1 (mem_findAll_ofSpan (ensures_wholeKeyword _) isEnd).2
      have edge := isBoundary_stop_of_wholeKeyword isEnd
      obtain ⟨outer, here, isBlock, braced⟩ := around.keeps before.keeps
      obtain ⟨_, isHere, plain⟩ := (around.keeps before.keeps).isPlain
      cases here.symm.trans isHere
      have covers := Span.covers_iff.1 braced.surrounds.1
      have := found.span.start_le_stop
      have := stop.span.start_le_stop
      have last : (Span.between found.span.start stop.span.stop).stop = stop.span.stop := by
        simp only [Span.stop_between]
        omega
      refine before.append (fun b _ block keeps => block.keeps keeps) ?_
      refine returns_push before.accounts here plain rfl ?_ ⟨?_, by rw [last]; exact edge⟩
      · rw [Span.covers_iff, last, Span.start_between]
        omega
      · simp only [Span.covers_iff, Span.start_between, Span.stop_between]
        omega

theorem returns_forBlocks {P Q : Span → Span → Prop} {pass : Outline → Block → Outline × List Block}
    (passes : ∀ (t : Outline) (b : Block), Accounts text has t → t.HasBlock P b →
      Returns text has (HasBlock Q) t (pass t b).1 (pass t b).2)
    (accounts : Accounts text has t) (known : ∀ b ∈ blocks, t.HasBlock P b) :
    Returns text has (HasBlock Q) t (forBlocks pass t blocks).1 (forBlocks pass t blocks).2 := by
  refine List.foldlRecOn (motive := fun r : Outline × List Block => Returns text has (HasBlock Q) t r.1 r.2) _ _
    (returns_none accounts) ?_
  rintro ⟨t', found⟩ before b member
  exact before.append (fun b _ block keeps => block.keeps keeps)
    (passes t' b before.accounts ((known b member).keeps before.keeps))

end

/-! ## Contents of regions -/

section

variable {region : Block}

theorem returns_addRegionStructs (source : Source) (accounts : Accounts text has t) (plain : t.IsPlain region.id) :
    Returns text has (Takes text) t (t.addRegionStructs source region).1 (t.addRegionStructs source region).2 := by
  refine List.foldlRecOn (motive := fun r : Outline × List Block => Returns text has (Takes text) t r.1 r.2) _ _
    (returns_none accounts) ?_
  rintro ⟨t', structs⟩ before found -
  dsimp only
  split
  · exact before
  · refine before.append (fun b _ takes keeps => TakesFrom.keeps takes keeps) ⟨?_, keeps_push t' _ _, ?_⟩
    · refine before.accounts.push _ rfl fun above is => ?_
      cases is
      exact (plain.keeps before.keeps).takesFrom _
    · intro b member
      rw [List.mem_singleton.1 member]
      exact IsPlain.takesFrom ⟨_, (get?_push ..).trans (if_pos rfl), rfl⟩ _

/-- A function ends with its braces or, if that comes first, with its region. -/
theorem isHeadedBy_fit {found : Found FunctionHeader} {span : Span}
    (member : found ∈ (Source.ofText text).findAll span functionHeader) {braces body : Span}
    (isBraces : (Source.ofText text).brackets.braceAt? (found.span.stop - 1) = some (braces, body)) {id : Nat}
    {outer : Symbol} (here : t.get? id = some outer) (surrounds : outer.span.Surrounds text span) (detail : String)
    (kind : SymbolKind) :
    let f := t.fit (some id)
      ⟨found.value.name.text, detail, kind, .between found.span.start braces.stop, found.value.name.span⟩
    IsHeadedBy f found ∧ Text.isBoundary text f.span.stop = true := by
  obtain ⟨-, name, -, -⟩ := places_of_mem_findAll member
  have within := Span.covers_iff.1 (mem_findAll_ofSpan ensures_functionHeader member).2
  obtain ⟨covers, edge⟩ := surrounds
  obtain ⟨-, edge', reaches, -⟩ := Source.opener_of_braceAt? isBraces
  rw [Span.covers_iff] at covers name
  have := found.span.start_le_stop
  have start : ((Span.between found.span.start braces.stop).clampTo outer.span).start = found.span.start := by
    simp only [Span.clampTo, Span.clamp, Span.start_between]
    omega
  have stop : ((Span.between found.span.start braces.stop).clampTo outer.span).stop =
      min braces.stop outer.span.stop := by
    rw [Span.stop_clampTo, Span.clamp, Span.stop_between]
    omega
  rw [fit_some here]
  refine ⟨⟨rfl, ?_, start, ?_⟩, ?_⟩
  · refine Span.clampTo_of_covers (Span.covers_iff.2 ?_)
    simp only [start, stop]
    omega
  · rw [stop]
    omega
  · rw [stop, Nat.min_def]
    split
    · exact edge'
    · exact edge

theorem returns_addMethods (declares : ∀ f members, IsDeclared (.ofText text) f members → has f members)
    (accounts : Accounts text has t) (around : t.HasBlock (Span.Surrounds text) region) :
    Returns text has (Takes text) t (t.addMethods (.ofText text) region).1 (t.addMethods (.ofText text) region).2 := by
  refine List.foldlRecOn (motive := fun r : Outline × List Block => Returns text has (Takes text) t r.1 r.2) _ _
    (returns_none accounts) ?_
  rintro ⟨t', methods⟩ before found member
  dsimp only
  split
  · exact before
  · rename_i isFunction
    rw [Bool.or_eq_true, not_or, Bool.not_eq_true] at isFunction
    split
    · exact before
    · rename_i braces body isBraces
      have plain := (around.keeps before.keeps).isPlain
      obtain ⟨outer, here, -, surrounds⟩ := around.keeps before.keeps
      obtain ⟨headed, edge⟩ := isHeadedBy_fit member isBraces here surrounds found.value.returns.text .method
      obtain ⟨accounts, takes⟩ := before.accounts.declare (fun _ _ declared => declares _ _ ⟨_, declared⟩)
        (some region.id) _
        (fun above is => Option.some.inj is ▸ plain) member isFunction.1 isBraces headed edge
      refine before.append (fun b _ takes keeps => TakesFrom.keeps takes keeps) ⟨accounts, ?_, ?_⟩
      · exact (keeps_push t' _ _).trans (isFilled_addParameters ..).keeps
      · intro b member
        rw [List.mem_singleton.1 member]
        exact takes

theorem Accounts.foldl_fill {source : String} {fill : Outline → Block → Outline}
    (fills : ∀ (t : Outline) (b : Block), IsFilled source b.body b.id t (fill t b)) (accounts : Accounts text has t)
    (takes : ∀ b ∈ blocks, Takes text t b) :
    Accounts text has (blocks.foldl fill t) ∧ t.Keeps (blocks.foldl fill t) := by
  refine List.foldlRecOn (motive := fun t' : Outline => Accounts text has t' ∧ t.Keeps t') _ _ ⟨accounts, .refl t⟩ ?_
  intro t' before b member
  exact ⟨before.1.fill (TakesFrom.keeps (takes b member) before.2) (fills t' b), before.2.trans (fills t' b).keeps⟩

theorem accounts_addRegionContents (declares : ∀ f members, IsDeclared (.ofText text) f members → has f members)
    (accounts : Accounts text has t) (around : t.HasBlock (Span.Surrounds text) region) :
    Accounts text has (t.addRegionContents (.ofText text) region) ∧
      t.Keeps (t.addRegionContents (.ofText text) region) := by
  have structs := returns_addRegionStructs (.ofText text) accounts around.isPlain
  have methods := returns_addMethods declares structs.accounts (around.keeps structs.keeps)
  obtain ⟨accounts, keeps⟩ := methods.accounts.foldl_fill
    (fun t b => isFilled_addMembers t (.ofText text) b.id b.body)
    fun b member => TakesFrom.keeps (structs.holds b member) methods.keeps
  obtain ⟨accounts, keeps'⟩ := accounts.foldl_fill (fun t b => isFilled_addRegionVariables (.ofText text) t b)
    fun b member => TakesFrom.keeps (methods.holds b member) keeps
  have kept := ((structs.keeps.trans methods.keeps).trans keeps).trans keeps'
  constructor
  · exact accounts.fill (around.keeps kept).takes (isFilled_addRegionVariables (.ofText text) _ region)
  · exact kept.trans (isFilled_addRegionVariables (.ofText text) _ region).keeps

end

/-! ## Documents -/

theorem returns_of_addShader (accounts : Accounts text has t) {shader : Outline × Block}
    (h : t.addShader (.ofText text) = some shader) :
    Returns text has (HasBlock (Span.IsBraced text)) t shader.1 [shader.2] := by
  obtain ⟨found, -, h⟩ := Option.bind_eq_some_iff.1 h
  obtain ⟨braces, isBraces, h⟩ := Option.bind_eq_some_iff.1 h
  cases h
  have new := get?_push t none
    ⟨"Shader", found.value.2.text, .file, .between found.span.start braces.1.stop, found.value.1⟩ t.size
  rw [if_pos rfl] at new
  refine ⟨accounts.push none rfl (fun above is => by cases is), keeps_push t none _, fun b member => ?_⟩
  rw [List.mem_singleton.1 member]
  exact ⟨_, new, rfl, Span.isBraced_between isBraces⟩

theorem returns_addProperties (accounts : Accounts text has t) {shader : Block}
    (around : t.HasBlock (Span.IsBraced text) shader) :
    Returns text has (HasBlock (Span.IsBraced text)) t (t.addProperties (.ofText text) shader) [] := by
  have blocks := returns_addBlocks accounts around "Properties" (some 1)
  unfold addProperties
  dsimp only
  split
  · exact ⟨blocks.accounts, blocks.keeps, fun _ member => absurd member List.not_mem_nil⟩
  · rename_i block more isBlocks
    have takes : Takes text _ block := (blocks.holds block (isBlocks ▸ List.mem_cons_self)).takes
    have filled := isFilled_addPropertyDeclarations (.ofText text)
      (t.addBlocks (.ofText text) shader "Properties" (some 1)).1 block
    exact ⟨blocks.accounts.fill takes filled, blocks.keeps.trans filled.keeps,
      fun _ member => absurd member List.not_mem_nil⟩

/-- Records all blocks and regions in a shader; what comes with the outline are the regions. -/
def addAllRegions (t : Outline) (source : Source) (shader : Block) : Outline × List Block :=
  let subshaders := (t.addProperties source shader).addBlocks source shader "SubShader" none
  let passes := forBlocks (fun t block => t.addBlocks source block "Pass" none) subshaders.1 subshaders.2
  forBlocks (fun t block => t.addRegions source block) passes.1 (passes.2 ++ subshaders.2 ++ [shader])

/-- First all blocks and regions are recorded, then what the regions declare. -/
theorem addShaderDocument_of_addShader {source : Source} {shader : Outline × Block}
    (h : t.addShader source = some shader) :
    t.addShaderDocument source =
      let found := shader.1.addAllRegions source shader.2
      (found.2.mergeSort found.1.regionOrder).foldl (fun t region => t.addRegionContents source region) found.1 := by
  rw [addShaderDocument, h]
  rfl

theorem returns_addAllRegions (accounts : Accounts text has t) {shader : Block}
    (around : t.HasBlock (Span.IsBraced text) shader) :
    Returns text has (HasBlock (Span.Surrounds text)) t (t.addAllRegions (.ofText text) shader).1
      (t.addAllRegions (.ofText text) shader).2 := by
  unfold addAllRegions
  dsimp only
  have stays {holds : Span → Span → Prop} {t t' : Outline} {blocks : List Block} (b : Block) (_ : b ∈ blocks)
      (block : t.HasBlock holds b) (keeps : t.Keeps t') : t'.HasBlock holds b := block.keeps keeps
  have isFound : Returns text has (HasBlock (Span.IsBraced text)) t t [shader] :=
    ⟨accounts, .refl t, fun b member => List.mem_singleton.1 member ▸ around⟩
  have properties := returns_addProperties accounts around
  generalize t.addProperties (.ofText text) shader = t₂ at properties ⊢
  have subshaders := returns_addBlocks properties.accounts (around.keeps properties.keeps) "SubShader" none
  generalize t₂.addBlocks (.ofText text) shader "SubShader" none = subs at subshaders ⊢
  have passes := returns_forBlocks (fun t b accounts known => returns_addBlocks accounts known "Pass" none)
    subshaders.accounts subshaders.holds
  generalize forBlocks (fun t block => t.addBlocks (.ofText text) block "Pass" none) subs.1 subs.2 = inner
    at passes ⊢
  have levels := ((isFound.append stays properties).append stays subshaders).append stays passes
  have isLevel : ∀ b ∈ inner.2 ++ subs.2 ++ [shader], inner.1.HasBlock (Span.IsBraced text) b := fun b member =>
    levels.holds b (by simpa [or_assoc, or_comm, or_left_comm] using member)
  have regions := returns_forBlocks (fun t b accounts known => returns_addRegions accounts known) passes.accounts
    isLevel
  exact ⟨regions.accounts, levels.keeps.trans regions.keeps, regions.holds⟩

theorem accounts_addShaderDocument (declares : ∀ f members, IsDeclared (.ofText text) f members → has f members)
    (accounts : Accounts text has t) :
    Accounts text has (t.addShaderDocument (.ofText text)) := by
  cases isShader : t.addShader (.ofText text) with
  | none =>
    rw [addShaderDocument, isShader]
    exact accounts
  | some shader =>
    rw [addShaderDocument_of_addShader isShader]
    have isFound := returns_of_addShader accounts isShader
    have regions := returns_addAllRegions isFound.accounts (isFound.holds shader.2 (List.mem_singleton_self _))
    refine (List.foldlRecOn (motive := fun t : Outline => Accounts text has t ∧
      (shader.1.addAllRegions (.ofText text) shader.2).1.Keeps t) _ _ ⟨regions.accounts, .refl _⟩ ?_).1
    intro t before region member
    have around := regions.holds region (List.mem_mergeSort.1 member)
    obtain ⟨accounts, keeps⟩ := accounts_addRegionContents declares before.1 (around.keeps before.2)
    exact ⟨accounts, before.2.trans keeps⟩

/-- In the outline of every text all functions are accounted for. -/
theorem accounts_extract (language : Language) (text : String) :
    Accounts text (HasParameters (.ofText text)) (extract language text) := by
  cases language with
  | hlsl => exact accounts_addCode (accounts_empty text _)
  | shaderLab => exact accounts_addShaderDocument (fun f members => .header) (accounts_empty text _)

end Outline

end ShaderAnalysis
