import ShaderAnalysis.Outline.Shader
import ShaderAnalysis.Proofs.Outline.Declaration

/-!
# Outlines of shader documents are read off the text

In a shader document a region of code ends at its end word, and what is declared in a brace that is still open
there is cut off by clamping. What is not cut off has its name where the text has it, and what is declared in
one declaration does not overlap (`isOrderly_addShaderDocument`).
-/

namespace ShaderAnalysis

/-- Unless the symbol is a block, its name is a word, and the one that the text has at its selection if
clamping has left that as long as the name. -/
def Symbol.IsExactUnlessCut (text : String) (s : Symbol) : Prop :=
  s.kind.isBlock = true ∨
    Text.IsWord s.name.toList ∧
      (s.selection.length = Text.length8 s.name.toList → Text.slice text s.selection = s.name)

/-- Clamping keeps a selection or makes it shorter. -/
theorem Symbol.IsRead.isExactUnlessCut {text : String} {span : Span} {s : Symbol} (isRead : s.IsRead text span)
    (inner outer : Span) :
    Symbol.IsExactUnlessCut text { s with span := inner, selection := s.selection.clampTo outer } := by
  refine .inr ⟨isRead.word, fun whole => ?_⟩
  have nonempty : 0 < s.selection.length := by
    have := isRead.start_lt_stop
    rw [Span.length]
    omega
  have uncut : s.selection.clampTo outer = s.selection :=
    Span.clampTo_of_length (whole.trans isRead.length.symm) nonempty
  simp only [uncut]
  exact isRead.name

namespace Outline

open Scanner

variable {text : String} {t t' : Outline} {id : Nat}

/-! ## Scanners -/

theorem moves_quotedText : Moves quotedText := by
  refine moves_get.bind fun c => (moves_char '"').bind fun _ => (moves_runAny _).bind fun inner => ?_
  exact (moves_char '"').bind fun _ => (moves_get.bind fun c => moves_pure c.offset).bind fun stop => moves_pure _

theorem moves_propertyEnd : Moves propertyEnd := by
  refine (moves_char ')').bind fun _ => moves_blanks.bind fun _ => (moves_char '=').bind fun _ => ?_
  exact moves_blanks.bind fun _ => (moves_runAny _).discard

theorem moves_untilPropertyEnd (taken cs : List Char) : Moves (untilPropertyEnd taken cs) := by
  induction cs generalizing taken with
  | nil => exact moves_failure
  | cons c cs ih =>
    refine .orElse ?_ ?_
    · exact (moves_guard _).bind fun _ => moves_propertyEnd.bind fun _ => moves_pure _
    · exact (moves_guard _).bind fun _ => (moves_char c).bind fun _ => ih (c :: taken)

theorem moves_propertyKind : Moves propertyKind := by
  refine (moves_runAny _).bind fun gap => .orElse ?_ ?_
  · exact moves_get.bind fun c => (moves_untilPropertyEnd [] c.rest).bind fun kind => moves_pure _
  · exact (moves_guard _).bind fun _ => moves_propertyEnd.bind fun _ => moves_pure ""

theorem ensures_propertyDeclaration : Ensures [] propertyDeclaration fun d ls =>
    ls = [d.name] ∧ Text.IsWord d.name.text.toList := by
  refine .wordFromStart fun name isWord => .skip moves_blanks fun _ => .skip (moves_char _) fun _ => ?_
  refine .skip moves_blanks fun _ => .skip moves_quotedText.discard fun _ => .skip moves_blanks fun _ => ?_
  refine .skip (moves_char _) fun _ => .skip moves_propertyKind fun kind => ?_
  exact ensures_pure (List.Sublist.refl _) ⟨rfl, isWord⟩

/-- A size, and the bracket that closes it. -/
theorem ensures_digitSize {known : List Lexeme} : Ensures known digitSize fun size ls =>
    ∃ close, ls = known ++ [size, close] ∧ close.text.toList = [']'] := by
  refine .skip (moves_char '[') fun _ => (ensures_runAny _).bind fun size ls same => ?_
  refine (ensures_char ']').bind fun _ ls' ⟨close, same', isClose⟩ => ?_
  refine ensures_pure (List.Sublist.refl _) ⟨close, ?_, isClose⟩
  rw [same', same, List.append_assoc]
  rfl

theorem ensures_regionVariable : Ensures [] regionVariable fun d ls => Text.IsWord d.name.text.toList ∧
    ((∃ size close, d.size = some size ∧ ls = [d.type, d.name, size, close] ∧ close.text.toList = [']']) ∨
      d.size = none ∧ ls = [d.type, d.name]) := by
  refine .wordFromStart fun type _ => .skip moves_gap fun _ => .word fun name isWord => ?_
  refine ensures_digitSize.orNone.bind fun size ls read => .skip moves_blanks fun _ => ?_
  refine .skip (moves_satisfy _).discard fun _ => ensures_pure (List.Sublist.refl _) ⟨isWord, ?_⟩
  rcases read with ⟨s, rfl, close, rfl, isClose⟩ | ⟨rfl, rfl⟩
  · exact .inl ⟨s, close, rfl, rfl, isClose⟩
  · exact .inr ⟨rfl, rfl⟩

/-! ## Filling -/

/-- The symbol is a block. -/
def IsBlock (t : Outline) (id : Nat) : Prop :=
  ∃ s, t.get? id = some s ∧ s.kind.isBlock = true

theorem IsBlock.isOpen (block : t.IsBlock id) (bound : Nat) : t.IsOpen id bound := by
  obtain ⟨s, here, isBlock⟩ := block
  exact ⟨s, here, fun declares => absurd (declares.symm.trans isBlock) Bool.false_ne_true⟩

/-- The second outline has the symbols of the first one. -/
def Keeps (t t' : Outline) : Prop :=
  ∀ id s, t.get? id = some s → t'.get? id = some s

theorem Keeps.refl (t : Outline) : t.Keeps t :=
  fun _ _ here => here

theorem Keeps.trans {t'' : Outline} (first : t.Keeps t') (second : t'.Keeps t'') : t.Keeps t'' :=
  fun id s here => second id s (first id s here)

theorem keeps_push (t : Outline) (parent : Option Nat) (s : Symbol) : t.Keeps (t.push parent s).1 :=
  fun _ _ here => get?_push_of_some here parent s

theorem keeps_addAll (t : Outline) (id : Nat) (members : List Symbol) : t.Keeps (t.addAll id members) :=
  fun _ _ here => get?_addAll members here

theorem IsFilled.keeps {span : Span} (filled : IsFilled text span id t t') : t.Keeps t' := by
  obtain ⟨members, rfl, -⟩ := filled
  exact keeps_addAll t id members

theorem IsBlock.keeps (block : t.IsBlock id) (keeps : t.Keeps t') : t'.IsBlock id := by
  obtain ⟨s, here, isBlock⟩ := block
  exact ⟨s, keeps id s here, isBlock⟩

theorem IsOrderly.add_block (orderly : t.IsOrderly (Symbol.IsExactUnlessCut text)) (parent : Option Nat)
    (known : ∀ above ∈ parent, t.IsBlock above) {s : Symbol} (isBlock : s.kind.isBlock = true) :
    (t.push parent s).1.IsOrderly (Symbol.IsExactUnlessCut text) ∧ (t.push parent s).1.IsBlock t.size := by
  constructor
  · exact orderly.push (fun above is => (known above is).isOpen _) (.inl isBlock)
  · exact ⟨t.fit parent s, by rw [get?_push, if_pos rfl], isBlock⟩

/-- A declaration in a block has its name where it was read, unless that is cut off. -/
theorem IsOrderly.add_named (orderly : t.IsOrderly (Symbol.IsExactUnlessCut text)) (known : t.IsBlock id)
    {s : Symbol} {span : Span} (isRead : s.IsRead text span) :
    (t.push (some id) s).1.IsOrderly (Symbol.IsExactUnlessCut text) := by
  have isOpen := known.isOpen s.span.start
  obtain ⟨outer, here, -⟩ := known
  refine orderly.push (fun above is => ?_) ?_
  · cases is
    exact isOpen
  · rw [fit_some here]
    exact isRead.isExactUnlessCut _ _

theorem IsOrderly.fill_cut {span : Span} (orderly : t.IsOrderly (Symbol.IsExactUnlessCut text))
    (isOpen : t.IsOpen id span.start) (filled : IsFilled text span id t t') :
    t'.IsOrderly (Symbol.IsExactUnlessCut text) ∧ t'.IsOpen id span.stop := by
  obtain ⟨outer, here⟩ := exists_get? isOpen.lt_size
  obtain ⟨orderly, -, isOpen⟩ := orderly.filled here isOpen filled fun s isRead => isRead.isExactUnlessCut _ _
  exact ⟨orderly, isOpen⟩

/-- What is to be put below these symbols can be, body by body. -/
structure Awaits (t : Outline) (pending : List Block) : Prop where
  isOpen : ∀ b ∈ pending, t.IsOpen b.id b.body.start
  apart : pending.Pairwise fun a b => a.id ≠ b.id

theorem awaits_nil (t : Outline) : t.Awaits [] where
  isOpen := fun _ member => absurd member List.not_mem_nil
  apart := List.Pairwise.nil

section

variable {pending : List Block}

theorem Awaits.lt_size (awaits : t.Awaits pending) {b : Block} (member : b ∈ pending) : b.id < t.size :=
  (awaits.isOpen b member).lt_size

/-- What is put below a block is in nobody's way. -/
theorem Awaits.push (awaits : t.Awaits pending) (forest : t.IsForest) (known : t.IsBlock id) (s : Symbol) :
    (t.push (some id) s).1.Awaits pending where
  isOpen := by
    intro b member
    refine (awaits.isOpen b member).push forest (fun same => ?_) s
    cases same
    exact known
  apart := awaits.apart

theorem Awaits.addAll (awaits : t.Awaits pending) (forest : t.IsForest) (other : ∀ b ∈ pending, id ≠ b.id)
    (members : List Symbol) : (t.addAll id members).Awaits pending where
  isOpen := fun b member =>
    (awaits.isOpen b member).addAll_elsewhere members forest fun same => absurd same (other b member)
  apart := awaits.apart

theorem Awaits.concat (awaits : t.Awaits pending) {b : Block} (isOpen : t.IsOpen b.id b.body.start)
    (other : ∀ a ∈ pending, a.id ≠ b.id) : t.Awaits (pending ++ [b]) where
  isOpen := by
    intro a member
    rcases List.mem_append.1 member with old | new
    · exact awaits.isOpen a old
    · rw [List.mem_singleton.1 new]
      exact isOpen
  apart := by
    refine List.pairwise_append.2 ⟨awaits.apart, List.pairwise_singleton _ _, fun a member b' last => ?_⟩
    rw [List.mem_singleton.1 last]
    exact other a member

/-- One symbol after the other is filled, and the others can still be. -/
theorem IsOrderly.foldl_fill {fill : Outline → Block → Outline}
    (fills : ∀ (t : Outline) (b : Block), IsFilled text b.body b.id t (fill t b)) {blocks : List Block}
    (orderly : t.IsOrderly (Symbol.IsExactUnlessCut text)) (awaits : t.Awaits (blocks ++ pending)) :
    (blocks.foldl fill t).IsOrderly (Symbol.IsExactUnlessCut text) ∧ (blocks.foldl fill t).Awaits pending ∧
      t.Keeps (blocks.foldl fill t) := by
  induction blocks generalizing t with
  | nil => exact ⟨orderly, awaits, .refl t⟩
  | cons b blocks ih =>
    have filled := fills t b
    have isOpen := awaits.isOpen b List.mem_cons_self
    obtain ⟨first, apart⟩ := List.pairwise_cons.1 awaits.apart
    have others : t.Awaits (blocks ++ pending) :=
      ⟨fun a member => awaits.isOpen a (List.mem_cons_of_mem _ member), apart⟩
    have orderly' := (orderly.fill_cut isOpen filled).1
    obtain ⟨members, same, -⟩ := filled
    rw [List.foldl_cons]
    obtain ⟨orderly, awaits, keeps⟩ := ih orderly' (same ▸ others.addAll orderly.nested.forest first members)
    exact ⟨orderly, awaits, Keeps.trans (same ▸ keeps_addAll t b.id members) keeps⟩

end

/-! ## Blocks and regions -/

/-- The second outline has come from the first one by a pass that has recorded these blocks. -/
structure Records (text : String) (t t' : Outline) (blocks : List Block) : Prop where
  orderly : t'.IsOrderly (Symbol.IsExactUnlessCut text)
  keeps : t.Keeps t'
  isBlock : ∀ b ∈ blocks, t'.IsBlock b.id

section

variable {blocks : List Block}

theorem Records.none (orderly : t.IsOrderly (Symbol.IsExactUnlessCut text)) : Records text t t [] :=
  ⟨orderly, .refl t, fun _ member => absurd member List.not_mem_nil⟩

theorem Records.append {t'' : Outline} {more : List Block} (first : Records text t t' blocks)
    (second : Records text t' t'' more) : Records text t t'' (blocks ++ more) where
  orderly := second.orderly
  keeps := first.keeps.trans second.keeps
  isBlock := by
    intro b member
    rcases List.mem_append.1 member with old | new
    · exact (first.isBlock b old).keeps second.keeps
    · exact second.isBlock b new

theorem records_push (orderly : t.IsOrderly (Symbol.IsExactUnlessCut text)) (known : t.IsBlock id) {s : Symbol}
    (isBlock : s.kind.isBlock = true) (body : Span) :
    Records text t (t.push (some id) s).1 [⟨t.size, body⟩] := by
  obtain ⟨orderly, new⟩ := orderly.add_block (some id) (fun above is => Option.some.inj is ▸ known) isBlock
  refine ⟨orderly, keeps_push t (some id) s, fun b member => ?_⟩
  rw [List.mem_singleton.1 member]
  exact new

theorem records_addBlocks (source : Source) (orderly : t.IsOrderly (Symbol.IsExactUnlessCut text)) {parent : Block}
    (known : t.IsBlock parent.id) (name : String) (limit : Option Nat) :
    Records text t (t.addBlocks source parent name limit).1 (t.addBlocks source parent name limit).2 := by
  refine List.foldlRecOn (motive := fun r : Outline × List Block => Records text t r.1 r.2) _ _ (.none orderly) ?_
  rintro ⟨t', blocks⟩ before found -
  dsimp only
  split
  · exact before
  · split
    · exact before
    · split
      · exact before
      · exact before.append (records_push before.orderly (known.keeps before.keeps) rfl _)

theorem records_addRegions (source : Source) (orderly : t.IsOrderly (Symbol.IsExactUnlessCut text)) {level : Block}
    (known : t.IsBlock level.id) :
    Records text t (t.addRegions source level).1 (t.addRegions source level).2 := by
  refine List.foldlRecOn (motive := fun r : Outline × List Block => Records text t r.1 r.2) _ _ (.none orderly) ?_
  rintro ⟨t', regions⟩ before found -
  dsimp only
  split
  · exact before
  · split
    · exact before
    · exact before.append (records_push before.orderly (known.keeps before.keeps) rfl _)

theorem records_forBlocks {pass : Outline → Block → Outline × List Block}
    (passes : ∀ (t : Outline) (b : Block), t.IsOrderly (Symbol.IsExactUnlessCut text) → t.IsBlock b.id →
      Records text t (pass t b).1 (pass t b).2)
    (orderly : t.IsOrderly (Symbol.IsExactUnlessCut text)) (known : ∀ b ∈ blocks, t.IsBlock b.id) :
    Records text t (forBlocks pass t blocks).1 (forBlocks pass t blocks).2 := by
  refine List.foldlRecOn (motive := fun r : Outline × List Block => Records text t r.1 r.2) _ _ (.none orderly) ?_
  rintro ⟨t', found⟩ before b member
  exact before.append (passes t' b before.orderly ((known b member).keeps before.keeps))

end

/-! ## Contents of regions -/

section

variable {source : Source} {pending : List Block}

theorem isFilled_addRegionVariables (source : Source) (t : Outline) (b : Block) :
    IsFilled source.text b.body b.id t (t.addRegionVariables source b) := by
  apply isFilled_foldl _ (pairwise_findAll ..)
  · exact fun found member => (mem_findAll_ofSpan ensures_regionVariable member).2
  · intro found member t
    dsimp only
    split
    · exact .inl rfl
    · obtain ⟨⟨ls, ⟨isWord, read⟩, areRead⟩, -⟩ := mem_findAll_ofSpan ensures_regionVariable member
      rcases read with ⟨size, close, isSize, rfl, bracket⟩ | ⟨noSize, rfl⟩
      · -- the closing bracket of the size is one byte long
        have last := areRead.bounds close (by simp)
        have length : close.span.length = 1 := by
          rw [areRead.length close (by simp), bracket]
          rfl
        have order := areRead.pairwise
        simp only [List.pairwise_cons, List.mem_cons, List.not_mem_nil, or_false, forall_eq_or_imp, forall_eq] at order
        have := size.span.start_le_stop
        rw [Span.length] at length
        simp only [isSize]
        exact .inr ⟨_, rfl, areRead.isDeclarator isWord _ _ (by omega) (by omega), rfl⟩
      · simp only [noSize]
        exact .inr ⟨_, rfl, areRead.isDeclarator isWord _ _ (Nat.le_refl _) (areRead.stop_le (by simp)), rfl⟩

/-- The contents of a region up to the members of its structs and the variables of its functions. -/
structure Declares (text : String) (t t' : Outline) (pending : List Block) : Prop where
  orderly : t'.IsOrderly (Symbol.IsExactUnlessCut text)
  keeps : t.Keeps t'
  awaits : t'.Awaits pending

section

variable {named : Symbol} {span : Span}

/-- A declaration whose contents are not read yet. -/
theorem Declares.push (before : Declares text t t' pending) (known : t'.IsBlock id) (isRead : named.IsRead text span)
    (body : Span) : Declares text t (t'.push (some id) named).1 (pending ++ [⟨t'.size, body⟩]) where
  orderly := before.orderly.add_named known isRead
  keeps := before.keeps.trans (keeps_push t' (some id) named)
  awaits := by
    refine (before.awaits.push before.orderly.nested.forest known named).concat (isOpen_push ..) fun b member => ?_
    exact Nat.ne_of_lt (before.awaits.lt_size member)

/-- A declaration that is filled from a list in front of its body. -/
theorem Declares.push_fill {t'' : Outline} (before : Declares text t t' pending) (known : t'.IsBlock id)
    (isRead : named.IsRead text span) {list body : Span} (behind : list.stop ≤ body.start)
    (filled : IsFilled text list t'.size (t'.push (some id) named).1 t'') :
    Declares text t t'' (pending ++ [⟨t'.size, body⟩]) := by
  have forest := before.orderly.nested.forest
  have pushed := before.orderly.add_named known isRead
  obtain ⟨orderly, isOpen⟩ := pushed.fill_cut (isOpen_push t' (some id) named list.start) filled
  obtain ⟨members, rfl, -⟩ := filled
  have other (b : Block) (member : b ∈ pending) : t'.size ≠ b.id :=
    Nat.ne_of_gt (before.awaits.lt_size member)
  have awaits := (before.awaits.push forest known named).addAll pushed.nested.forest other members
  refine ⟨orderly, ?_, awaits.concat (isOpen.mono behind) fun b member => (other b member).symm⟩
  exact before.keeps.trans ((keeps_push t' (some id) named).trans (keeps_addAll _ t'.size members))

end

theorem declares_addRegionStructs (room : source.brackets.HasRoom)
    (orderly : t.IsOrderly (Symbol.IsExactUnlessCut source.text)) {region : Block} (known : t.IsBlock region.id) :
    Declares source.text t (t.addRegionStructs source region).1 (t.addRegionStructs source region).2 := by
  refine foldl_findAll ensures_structHeader (P := fun r : Outline × List Block =>
    Declares source.text t r.1 r.2) ?_ ⟨orderly, .refl t, awaits_nil t⟩
  rintro ⟨t', structs⟩ found _ before ⟨rfl, isWord⟩ areRead -
  dsimp only
  split
  · exact before
  · rename_i braces body isBraces
    obtain ⟨reaches, -, -⟩ := room.braceAt?_behind found.span.start_le_stop isBraces
    have name := areRead.bounds found.value (by simp)
    have inside : (Span.between found.span.start braces.stop).covers found.value.span = true := by
      simp only [Span.covers_iff, Span.start_between, Span.stop_between]
      omega
    have isRead := areRead.isRead (List.mem_singleton_self _) isWord "" .struct inside
    exact before.push (known.keeps before.keeps) isRead body

theorem declares_addMethods (room : source.brackets.HasRoom)
    (orderly : t.IsOrderly (Symbol.IsExactUnlessCut source.text)) {region : Block} (known : t.IsBlock region.id)
    (awaits : t.Awaits pending) :
    Declares source.text t (t.addMethods source region).1 (pending ++ (t.addMethods source region).2) := by
  refine foldl_findAll ensures_functionHeader (P := fun r : Outline × List Block =>
    Declares source.text t r.1 (pending ++ r.2)) ?_ ⟨orderly, .refl t, (List.append_nil pending).symm ▸ awaits⟩
  rintro ⟨t', methods⟩ found _ before ⟨params, rfl, list, isWord⟩ areRead -
  dsimp only
  split
  · exact before
  · split
    · exact before
    · rename_i braces body isBraces
      obtain ⟨reaches, behind, -⟩ := room.braceAt?_behind found.span.start_le_stop isBraces
      have name := areRead.bounds found.value.name (by simp)
      have inside : (Span.between found.span.start braces.stop).covers found.value.name.span = true := by
        simp only [Span.covers_iff, Span.start_between, Span.stop_between]
        omega
      have isRead := areRead.isRead (by simp) isWord found.value.returns.text .method inside
      rw [list, ← List.append_assoc]
      exact before.push_fill (known.keeps before.keeps) isRead (Nat.le_trans (areRead.stop_le (by simp)) behind)
        (isFilled_addParameters _ source t'.size params.span)

theorem isOrderly_addRegionContents (room : source.brackets.HasRoom)
    (orderly : t.IsOrderly (Symbol.IsExactUnlessCut source.text)) {region : Block} (known : t.IsBlock region.id) :
    (t.addRegionContents source region).IsOrderly (Symbol.IsExactUnlessCut source.text) ∧
      t.Keeps (t.addRegionContents source region) := by
  have structs := declares_addRegionStructs room orderly known
  have methods := declares_addMethods room structs.orderly (known.keeps structs.keeps) structs.awaits
  obtain ⟨filledStructs, awaits, keeps⟩ := methods.orderly.foldl_fill
    (fun t b => isFilled_addMembers t source b.id b.body) methods.awaits
  rw [← List.append_nil ((t.addRegionStructs source region).1.addMethods source region).2] at awaits
  obtain ⟨filledMethods, -, keeps'⟩ := filledStructs.foldl_fill
    (fun t b => isFilled_addRegionVariables source t b) awaits
  have kept := ((structs.keeps.trans methods.keeps).trans keeps).trans keeps'
  have isOpen := (known.keeps kept).isOpen region.body.start
  constructor
  · exact (filledMethods.fill_cut isOpen (isFilled_addRegionVariables source _ region)).1
  · exact kept.trans (isFilled_addRegionVariables source _ region).keeps

end

/-! ## Documents -/

section

variable {source : Source}

theorem isFilled_addPropertyDeclarations (source : Source) (t : Outline) (block : Block) :
    IsFilled source.text block.body block.id t ((source.findAll block.body propertyDeclaration).foldl (fun t found =>
      let d := found.value
      t.add (some block.id) ⟨d.name.text, d.kind, .property, found.span, d.name.span⟩) t) := by
  apply isFilled_foldl _ (pairwise_findAll ..)
  · exact fun found member => (mem_findAll_ofSpan ensures_propertyDeclaration member).2
  · intro found member t
    obtain ⟨⟨_, ⟨rfl, isWord⟩, areRead⟩, -⟩ := mem_findAll_ofSpan ensures_propertyDeclaration member
    have isName := List.mem_singleton_self found.value.name
    exact .inr ⟨_, rfl, areRead.isRead isName isWord _ _ (areRead.covers isName), rfl⟩

theorem records_addProperties (orderly : t.IsOrderly (Symbol.IsExactUnlessCut source.text)) {shader : Block}
    (known : t.IsBlock shader.id) : Records source.text t (t.addProperties source shader) [] := by
  have blocks := records_addBlocks source orderly known "Properties" (some 1)
  unfold addProperties
  dsimp only
  split
  · exact ⟨blocks.orderly, blocks.keeps, fun _ member => absurd member List.not_mem_nil⟩
  · rename_i block more isBlocks
    have isBlock := blocks.isBlock block (isBlocks ▸ List.mem_cons_self)
    have filled := isFilled_addPropertyDeclarations source
      (t.addBlocks source shader "Properties" (some 1)).1 block
    have orderly := (blocks.orderly.fill_cut (isBlock.isOpen _) filled).1
    exact ⟨orderly, blocks.keeps.trans filled.keeps, fun _ member => absurd member List.not_mem_nil⟩

theorem records_of_addShader (orderly : t.IsOrderly (Symbol.IsExactUnlessCut source.text)) {shader : Outline × Block}
    (h : t.addShader source = some shader) : Records source.text t shader.1 [shader.2] := by
  obtain ⟨found, -, h⟩ := Option.bind_eq_some_iff.1 h
  obtain ⟨braces, -, h⟩ := Option.bind_eq_some_iff.1 h
  cases h
  obtain ⟨orderly, new⟩ := orderly.add_block none (fun above is => by cases is)
    (s := ⟨"Shader", found.value.2.text, .file, .between found.span.start braces.1.stop, found.value.1⟩) rfl
  refine ⟨orderly, keeps_push t none _, fun b member => ?_⟩
  rw [List.mem_singleton.1 member]
  exact new

theorem isOrderly_addShaderDocument (room : source.brackets.HasRoom)
    (orderly : t.IsOrderly (Symbol.IsExactUnlessCut source.text)) :
    (t.addShaderDocument source).IsOrderly (Symbol.IsExactUnlessCut source.text) := by
  unfold addShaderDocument
  split
  · exact orderly
  · rename_i t₁ shader isShader
    dsimp only
    have isFound := records_of_addShader orderly isShader
    have known := isFound.isBlock shader (List.mem_singleton_self _)
    have properties := records_addProperties isFound.orderly known
    generalize t₁.addProperties source shader = t₂ at properties ⊢
    have subshaders := records_addBlocks source properties.orderly (known.keeps properties.keeps)
      "SubShader" none
    generalize t₂.addBlocks source shader "SubShader" none = subs at subshaders ⊢
    have passes := records_forBlocks
      (fun t b orderly known => records_addBlocks source orderly known "Pass" none)
      subshaders.orderly subshaders.isBlock
    generalize forBlocks (fun t block => t.addBlocks source block "Pass" none) subs.1 subs.2 = inner at passes ⊢
    have levels := ((isFound.append properties).append subshaders).append passes
    have isLevel : ∀ b ∈ inner.2 ++ subs.2 ++ [shader], inner.1.IsBlock b.id := fun b member =>
      levels.isBlock b (by simpa [or_assoc, or_comm, or_left_comm] using member)
    have regions := records_forBlocks
      (fun t b orderly known => records_addRegions source orderly known) passes.orderly isLevel
    generalize forBlocks (fun t block => t.addRegions source block) inner.1 (inner.2 ++ subs.2 ++ [shader]) = found
      at regions ⊢
    refine (List.foldlRecOn (motive := fun t : Outline => t.IsOrderly (Symbol.IsExactUnlessCut source.text) ∧
      found.1.Keeps t) _ _ ⟨regions.orderly, .refl _⟩ ?_).1
    intro t before region member
    have isBlock := regions.isBlock region (List.mem_mergeSort.1 member)
    obtain ⟨orderly, keeps⟩ := isOrderly_addRegionContents room before.1 (isBlock.keeps before.2)
    exact ⟨orderly, before.2.trans keeps⟩

end

end Outline

end ShaderAnalysis
