import ShaderAnalysis.Outline.Extract
import ShaderAnalysis.Proofs.Outline.Alignment

/-!
# Shader documents are recorded between characters of the text

The scanner for properties looks for the end of a property at each character of a line, also inside a comment. It
settles at a closing parenthesis, so that it ends between characters of the text wherever it has looked
(`Scanner.Settles`). Blocks and regions pass on what is between their ends, which is why a pass keeps this of the
contents of its blocks as well (`IsAlignedPass`). With the passes for plain code, this gives all symbols of a text in
either language (`isAligned_extract`).
-/

namespace ShaderAnalysis

variable {text : String}

namespace Scanner

variable {α β : Type} {Q : α → Prop}

/-- Wherever the scanner starts in the masked text, it ends between characters of the text. -/
def Settles (text : String) (s : Scanner α) : Prop :=
  ∀ c a d, c.IsLoose text → s c = some (a, d) → Cursor.IsAligned text d

theorem Settles.aligns {s : Scanner α} (h : Settles text s) : Aligns text s fun _ => True :=
  fun c a d aligned ran => ⟨h c a d aligned.toIsLoose ran, trivial⟩

theorem settles_char {x : Char} (solid : x ≠ ' ') : Settles text (char x) := by
  intro c u d loose ran
  obtain ⟨⟨y, e⟩, here, same⟩ := Option.bind_eq_some_iff.1 ran
  cases same
  have other : (' ' == x) = false := beq_eq_false_iff_ne.2 (Ne.symm solid)
  exact (solid_satisfy other loose here).2

theorem settles_failure : Settles text (failure : Scanner α) := by
  intro c a d _ ran
  cases ran

theorem Settles.bind {s : Scanner α} {f : α → Scanner β} (first : Settles text s)
    (second : ∀ a, Aligns text (f a) fun _ => True) : Settles text (s >>= f) := by
  intro c b d loose ran
  obtain ⟨a, e, here, there⟩ := bind_eq_some.1 ran
  exact (second a e b d (first c a e loose here) there).1

/-- What comes before does not matter. -/
theorem Moves.settles {s : Scanner α} {f : α → Scanner β} (first : Moves s) (second : ∀ a, Settles text (f a)) :
    Settles text (s >>= f) := by
  intro c b d loose ran
  obtain ⟨a, e, here, there⟩ := bind_eq_some.1 ran
  exact second a e b d (loose.leadsTo (first c a e here)) there

theorem Settles.orElse {s t : Scanner α} (first : Settles text s) (second : Settles text t) :
    Settles text (s <|> t) := by
  intro c a d loose ran
  rcases orElse_eq_some ran with ran | ran
  · exact first c a d loose ran
  · exact second c a d loose ran

theorem StartsAligned.spanOf {s : Scanner α} (h : StartsAligned text s Q) :
    StartsAligned text (spanOf s) fun r => r.2.IsAligned text := by
  intro c r d tried ran
  obtain ⟨start, _, isStart, ran⟩ := bind_eq_some.1 ran
  cases isStart
  obtain ⟨a, e, here, ran⟩ := bind_eq_some.1 ran
  obtain ⟨aligned, there, -⟩ := h c a e tried here
  cases ran
  exact ⟨aligned, there, Span.isAligned_between aligned.here there.here⟩

end Scanner

namespace Outline

open Scanner

variable {t : Outline}

/-! ## Scanners -/

theorem aligns_quotedText : Aligns text quotedText fun _ => True := by
  refine aligns_get.bind fun c _ => (aligns_char (by decide)).bind fun _ _ => (aligns_runAny _).bind fun _ _ => ?_
  exact (aligns_char (by decide)).bind fun _ _ => aligns_offset.bind fun _ _ => aligns_pure trivial

/-- The characters of a keyword: there is one, and no space can stand for any of them. -/
def IsKeyword (name : String) : Prop :=
  name ≠ "" ∧ name.toList.all (fun x => !Text.foldsToLetter x ' ') = true

instance (name : String) : Decidable (IsKeyword name) :=
  inferInstanceAs (Decidable (_ ∧ _))

theorem startsAligned_keyword {name : String} (isKeyword : IsKeyword name) :
    StartsAligned text (keyword name) (Span.IsAligned text) := by
  have folded : StartsAligned text (literalFolded name) fun _ => True := by
    have nonempty : name.toList ≠ [] := fun empty => isKeyword.1 (String.toList_eq_nil_iff.1 empty)
    refine startsAligned_each (fun empty => nonempty (List.map_eq_nil_iff.1 empty)) fun p member => ?_
    obtain ⟨x, isIn, rfl⟩ := List.mem_map.1 member
    simpa using List.all_eq_true.1 isKeyword.2 x isIn
  refine StartsAligned.require ?_ _
  exact folded.spanOf.bind fun _ aligned => aligns_pure aligned

theorem startsAligned_shaderHeader : StartsAligned text shaderHeader fun h => h.1.IsAligned text := by
  refine (startsAligned_keyword (by decide)).bind fun _ aligned => aligns_blanks.bind fun _ _ => ?_
  refine aligns_quotedText.bind fun _ _ => aligns_blanks.bind fun _ _ => ?_
  exact (aligns_char (by decide)).bind fun _ _ => aligns_pure aligned

theorem startsAligned_blockHeader {name : String} (isKeyword : IsKeyword name) :
    StartsAligned text (blockHeader name) (Span.IsAligned text) := by
  refine (startsAligned_keyword isKeyword).bind fun _ aligned => aligns_blanks.bind fun _ _ => ?_
  exact (aligns_char (by decide)).bind fun _ _ => aligns_pure aligned

theorem settles_propertyEnd : Settles text propertyEnd := by
  refine (settles_char (by decide)).bind fun _ => aligns_blanks.bind fun _ _ => ?_
  refine (aligns_char (by decide)).bind fun _ _ => aligns_blanks.bind fun _ _ => ?_
  exact (aligns_runAny _).discard

theorem settles_untilPropertyEnd (taken cs : List Char) : Settles text (untilPropertyEnd taken cs) := by
  induction cs generalizing taken with
  | nil => exact settles_failure
  | cons c cs ih =>
    refine .orElse ?_ ?_
    · refine (moves_guard _).settles fun _ => settles_propertyEnd.bind fun _ => aligns_pure trivial
    · exact (moves_guard _).settles fun _ => (moves_char c).settles fun _ => ih (c :: taken)

theorem settles_propertyKind : Settles text propertyKind := by
  refine (moves_runAny _).settles fun gap => .orElse ?_ ?_
  · refine moves_get.settles fun c => (settles_untilPropertyEnd [] c.rest).bind fun _ => aligns_pure trivial
  · exact (moves_guard _).settles fun _ => settles_propertyEnd.bind fun _ => aligns_pure trivial

theorem startsAligned_propertyDeclaration :
    StartsAligned text propertyDeclaration fun d => d.name.span.IsAligned text := by
  refine startsAligned_wordFromStart.bind fun _ name => aligns_blanks.bind fun _ _ => ?_
  refine (aligns_char (by decide)).bind fun _ _ => aligns_blanks.bind fun _ _ => ?_
  refine aligns_quotedText.discard.bind fun _ _ => aligns_blanks.bind fun _ _ => ?_
  exact (aligns_char (by decide)).bind fun _ _ => settles_propertyKind.aligns.bind fun _ _ => aligns_pure name

theorem startsAligned_wholeKeyword (names : List String) :
    StartsAligned text (wholeKeyword names) fun w => w.span.IsAligned text :=
  startsAligned_wordFromStart.bind fun _ word => (aligns_guard _).bind fun _ _ => aligns_pure word

/-- Behind the digits of a size is its bracket, which is one byte long. -/
theorem aligns_digitSize : Aligns text digitSize fun size => Text.isBoundary text (size.span.stop + 1) = true := by
  refine (aligns_char (by decide)).bind fun _ _ => ?_
  intro c size d aligned ran
  obtain ⟨_, e, digits, ran⟩ := bind_eq_some.1 ran
  obtain ⟨there, -⟩ := aligns_runAny _ c _ e aligned digits
  have isRun := runAny_eq_some digits
  obtain ⟨_, f, bracket, ran⟩ := bind_eq_some.1 ran
  cases ran
  obtain ⟨⟨x, g⟩, closes, same⟩ := Option.bind_eq_some_iff.1 bracket
  cases same
  obtain ⟨behind, -⟩ := aligns_char (by decide) e () d there bracket
  obtain ⟨xs, -, isClose, rfl⟩ := satisfy_eq_some closes
  have stop : size.span.stop = e.offset := by
    rw [isRun.span, Span.stop_between, isRun.offset]
    omega
  have offset : (e.past [x] xs).offset = e.offset + 1 := by
    rw [beq_iff_eq.1 isClose]
    rfl
  have here := behind.here
  rw [offset, ← stop] at here
  exact ⟨behind, here⟩

theorem startsAligned_regionVariable : StartsAligned text regionVariable fun d =>
    d.type.span.IsAligned text ∧ d.name.span.IsAligned text ∧
      ∀ size ∈ d.size, Text.isBoundary text (size.span.stop + 1) = true := by
  refine startsAligned_wordFromStart.bind fun _ type => aligns_gap.bind fun _ _ => aligns_word.bind fun _ name => ?_
  refine aligns_digitSize.orNone.bind fun _ size => aligns_blanks.bind fun _ _ => ?_
  exact (startsAligned_satisfy (by decide)).discard.aligns.bind fun _ _ => aligns_pure ⟨type, name, size⟩

/-! ## Blocks -/

/-- The outline and the contents of the blocks that a pass returns have their ends between characters of the text. -/
structure IsAlignedPass (text : String) (r : Outline × List Block) : Prop where
  outline : r.1.IsAligned text
  bodies : ∀ b ∈ r.2, b.body.IsAligned text

theorem IsAligned.noBlocks (h : t.IsAligned text) : IsAlignedPass text (t, []) :=
  ⟨h, fun _ member => absurd member List.not_mem_nil⟩

theorem IsAlignedPass.concat {blocks : List Block} (bodies : ∀ b ∈ blocks, b.body.IsAligned text)
    (h : t.IsAligned text) {b : Block} (body : b.body.IsAligned text) : IsAlignedPass text (t, blocks ++ [b]) := by
  refine ⟨h, fun other member => ?_⟩
  rcases List.mem_append.1 member with old | new
  · exact bodies other old
  · rw [List.mem_singleton.1 new]
    exact body

variable {block : Block}

theorem isAligned_of_addShader (h : t.IsAligned text) {shader : Outline × Block}
    (found : t.addShader (.ofText text) = some shader) : shader.1.IsAligned text ∧ shader.2.body.IsAligned text := by
  obtain ⟨header, isHeader, found⟩ := Option.bind_eq_some_iff.1 found
  obtain ⟨⟨region, body⟩, braces, found⟩ := Option.bind_eq_some_iff.1 found
  cases found
  obtain ⟨around, inside⟩ := Source.isAligned_of_braceAt? braces
  rw [findFirst_eq_head?, ← Source.ofSpan_whole] at isHeader
  obtain ⟨there, keyword⟩ := startsAligned_shaderHeader.isAligned_of_mem_findAll (Source.isAligned_whole text)
    (List.mem_of_mem_head? isHeader)
  exact ⟨h.push none ⟨Span.isAligned_between there.start around.stop, keyword⟩, inside⟩

theorem IsAligned.addBlocks (h : t.IsAligned text) (aligned : block.body.IsAligned text) {name : String}
    (isKeyword : IsKeyword name) (limit : Option Nat) :
    IsAlignedPass text (t.addBlocks (.ofText text) block name limit) := by
  refine (startsAligned_blockHeader isKeyword).foldl aligned h.noBlocks fun r found h there keyword => ?_
  dsimp only
  split
  · exact h
  · split
    · exact h
    · rename_i region body braces
      obtain ⟨around, inside⟩ := Source.isAligned_of_braceAt? braces
      split
      · exact h
      · exact .concat h.bodies
          (h.outline.push _ ⟨Span.isAligned_between there.start around.stop, keyword⟩) inside

theorem IsAligned.addProperties (h : t.IsAligned text) (aligned : block.body.IsAligned text) :
    (t.addProperties (.ofText text) block).IsAligned text := by
  have blocks := h.addBlocks aligned (show IsKeyword "Properties" by decide) (some 1)
  unfold Outline.addProperties
  dsimp only
  split
  · exact blocks.outline
  · rename_i inner more isBlocks
    have inside := blocks.bodies inner (isBlocks ▸ List.mem_cons_self)
    refine startsAligned_propertyDeclaration.foldl inside blocks.outline fun t found h there name => ?_
    exact h.add _ ⟨there, name⟩

theorem IsAligned.addRegions (h : t.IsAligned text) (aligned : block.body.IsAligned text) :
    IsAlignedPass text (t.addRegions (.ofText text) block) := by
  refine (startsAligned_wholeKeyword _).foldl aligned h.noBlocks fun r found h there keyword => ?_
  dsimp only
  split
  · exact h
  · split
    · exact h
    · rename_i stop isStop
      obtain ⟨ends, -⟩ := (startsAligned_wholeKeyword _).isAligned_of_mem_findAll aligned
        (List.mem_of_find?_eq_some isStop)
      exact .concat h.bodies (h.outline.push _ ⟨Span.isAligned_between there.start ends.stop, keyword⟩)
        (Span.isAligned_between there.stop ends.start)

theorem IsAligned.addRegionStructs (h : t.IsAligned text) (aligned : block.body.IsAligned text) :
    IsAlignedPass text (t.addRegionStructs (.ofText text) block) := by
  refine startsAligned_structHeader.foldl aligned h.noBlocks fun r found h there name => ?_
  dsimp only
  split
  · exact h
  · rename_i region body braces
    obtain ⟨around, inside⟩ := Source.isAligned_of_braceAt? braces
    exact .concat h.bodies (h.outline.push _ ⟨Span.isAligned_between there.start around.stop, name⟩) inside

theorem IsAligned.addMethods (h : t.IsAligned text) (aligned : block.body.IsAligned text) :
    IsAlignedPass text (t.addMethods (.ofText text) block) := by
  refine startsAligned_functionHeader.foldl aligned h.noBlocks fun r found h there ⟨_, name, params⟩ => ?_
  dsimp only
  split
  · exact h
  · split
    · exact h
    · rename_i region body braces
      obtain ⟨around, inside⟩ := Source.isAligned_of_braceAt? braces
      have header := Span.isAligned_between there.start around.stop
      exact .concat h.bodies ((h.outline.push _ ⟨header, name⟩).addParameters params) inside

theorem IsAligned.addRegionVariables (h : t.IsAligned text) (aligned : block.body.IsAligned text) :
    (t.addRegionVariables (.ofText text) block).IsAligned text := by
  refine startsAligned_regionVariable.foldl aligned h fun t found h _ ⟨type, name, size⟩ => ?_
  dsimp only
  split
  · exact h
  · refine h.add _ ⟨Span.isAligned_between type.start ?_, name⟩
    split
    · rename_i isSize
      exact size _ isSize
    · exact name.stop

theorem IsAligned.foldl_blocks {fill : Outline → Block → Outline}
    (fills : ∀ (t : Outline) (b : Block), t.IsAligned text → b.body.IsAligned text → (fill t b).IsAligned text)
    {blocks : List Block} (h : t.IsAligned text) (bodies : ∀ b ∈ blocks, b.body.IsAligned text) :
    (blocks.foldl fill t).IsAligned text :=
  List.foldlRecOn (motive := Outline.IsAligned text) _ _ h fun t h b member => fills t b h (bodies b member)

theorem IsAligned.addRegionContents (h : t.IsAligned text) (aligned : block.body.IsAligned text) :
    (t.addRegionContents (.ofText text) block).IsAligned text := by
  have structs := h.addRegionStructs aligned
  have methods := structs.outline.addMethods aligned
  refine IsAligned.addRegionVariables ?_ aligned
  refine IsAligned.foldl_blocks (fun t b h body => h.addRegionVariables body) ?_ methods.bodies
  exact methods.outline.foldl_blocks (fun t b h body => h.addMembers body) structs.bodies

theorem IsAligned.forBlocks {pass : Outline → Block → Outline × List Block}
    (passes : ∀ (t : Outline) (b : Block), t.IsAligned text → b.body.IsAligned text → IsAlignedPass text (pass t b))
    {blocks : List Block} (h : t.IsAligned text) (bodies : ∀ b ∈ blocks, b.body.IsAligned text) :
    IsAlignedPass text (Outline.forBlocks pass t blocks) := by
  refine List.foldlRecOn (motive := IsAlignedPass text) _ _ h.noBlocks fun r h b member => ?_
  have more := passes r.1 b h.outline (bodies b member)
  refine ⟨more.outline, fun other isIn => ?_⟩
  rcases List.mem_append.1 isIn with old | new
  · exact h.bodies other old
  · exact more.bodies other new

theorem IsAligned.addShaderDocument (h : t.IsAligned text) :
    (t.addShaderDocument (.ofText text)).IsAligned text := by
  unfold Outline.addShaderDocument
  split
  · exact h
  · rename_i t₁ shader isShader
    obtain ⟨h, body⟩ := isAligned_of_addShader h isShader
    have properties := h.addProperties body
    have subshaders := properties.addBlocks body (show IsKeyword "SubShader" by decide) none
    have passes := subshaders.outline.forBlocks
      (fun t b h body => h.addBlocks body (show IsKeyword "Pass" by decide) none) subshaders.bodies
    have levels : ∀ b ∈ _ ++ _ ++ [shader], b.body.IsAligned text :=
      List.forall_mem_append.2 ⟨List.forall_mem_append.2 ⟨passes.bodies, subshaders.bodies⟩,
        List.forall_mem_singleton.2 body⟩
    have regions := passes.outline.forBlocks (fun t b h body => h.addRegions body) levels
    refine regions.outline.foldl_blocks (fun t b h body => h.addRegionContents body) fun b member => ?_
    exact regions.bodies b (List.mem_mergeSort.1 member)

/-- No symbol of a text starts or ends inside a character, and no name of a symbol does. -/
theorem isAligned_extract (language : Language) (text : String) : (extract language text).IsAligned text := by
  cases language with
  | hlsl => exact (isAligned_empty text).addCode (Source.isAligned_whole text)
  | shaderLab => exact (isAligned_empty text).addShaderDocument

end Outline

end ShaderAnalysis
