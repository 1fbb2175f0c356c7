import ShaderAnalysis.Outline.Extract
import ShaderAnalysis.Proofs.Outline.Forest

/-!
# Outlines grow

Extraction does nothing to an outline but put symbols into it and give symbols other details. What these
two steps keep, every pass keeps; so the outline of every text is a forest (`isForest_extract`).
-/

namespace ShaderAnalysis

namespace Outline

/-- The second outline comes from the first by putting symbols into it and by changing details. -/
inductive Grows (t : Outline) : Outline → Prop where
  | refl : Grows t t
  | push {t' : Outline} (before : Grows t t') (parent : Option Nat) (s : Symbol) : Grows t (t'.push parent s).1
  | setDetail {t' : Outline} (before : Grows t t') (id : Nat) (detail : String) : Grows t (t'.setDetail id detail)

namespace Grows

theorem trans {t t' t'' : Outline} (first : t.Grows t') (second : t'.Grows t'') : t.Grows t'' := by
  induction second with
  | refl => exact first
  | push _ parent s ih => exact ih.push parent s
  | setDetail _ id detail ih => exact ih.setDetail id detail

theorem add (t : Outline) (parent : Option Nat) (s : Symbol) : t.Grows (t.add parent s) :=
  .push .refl parent s

theorem foldl {α : Type} {step : Outline → α → Outline} (h : ∀ (t : Outline) x, t.Grows (step t x)) (xs : List α)
    (t : Outline) :
    t.Grows (xs.foldl step t) := by
  induction xs generalizing t with
  | nil => exact .refl
  | cons x xs ih => exact (h t x).trans (ih (step t x))

theorem foldl_fst {α β : Type} {step : Outline × β → α → Outline × β}
    (h : ∀ (t : Outline) b x, t.Grows (step (t, b) x).1)
    (xs : List α) (t : Outline) (b : β) : t.Grows (xs.foldl step (t, b)).1 := by
  induction xs generalizing t b with
  | nil => exact .refl
  | cons x xs ih => exact (h t b x).trans (ih (step (t, b) x).1 (step (t, b) x).2)

end Grows

theorem IsForest.of_grows {t t' : Outline} (forest : t.IsForest) (grows : t.Grows t') : t'.IsForest := by
  induction grows with
  | refl => exact forest
  | push _ parent s ih => exact ih.push parent s
  | setDetail _ id detail ih => exact ih.setDetail id detail

/-! ## Declarations -/

section

variable (t : Outline) (source : Source)

theorem grows_addMembers (parent : Nat) (body : Span) : t.Grows (t.addMembers source parent body) := by
  apply Grows.foldl
  intro t found
  dsimp only
  split
  · exact .refl
  · exact .add ..

theorem grows_addParameters (parent : Nat) (list : Span) : t.Grows (t.addParameters source parent list) := by
  apply Grows.foldl
  intro t piece
  dsimp only
  split
  · exact .refl
  · exact .add ..

theorem grows_addLocals (parent : Nat) (body : Span) (declared : List String) :
    t.Grows (t.addLocals source parent body declared) := by
  apply Grows.foldl
  intro t found
  dsimp only
  split
  · exact .refl
  · exact .add ..

/-! ## Plain code -/

theorem grows_addStructs (span : Span) : t.Grows (t.addStructs source span) := by
  apply Grows.foldl
  intro t found
  dsimp only
  split
  · exact .refl
  · split
    · exact .refl
    · exact (Grows.add ..).trans (grows_addMembers ..)

theorem grows_addBuffers (span : Span) : t.Grows (t.addBuffers source span) := by
  apply Grows.foldl
  intro t found
  dsimp only
  split
  · exact .refl
  · refine (Grows.add ..).trans (Grows.foldl ?_ _ _)
    intro t member
    split
    · exact .refl
    · exact .add ..

theorem grows_addFunctions (span : Span) (declared : List String) :
    t.Grows (t.addFunctions source span declared) := by
  apply Grows.foldl
  intro t found
  dsimp only
  split
  · exact .refl
  · split
    · exact .refl
    · split
      · exact .refl
      · exact ((Grows.add ..).trans (grows_addParameters ..)).trans (grows_addLocals ..)

theorem grows_addKernels (span : Span) : t.Grows (t.addKernels source span) := by
  apply Grows.foldl
  intro t found
  dsimp only
  split
  · exact .setDetail .refl ..
  · exact .add ..

theorem grows_addMacros (span : Span) : t.Grows (t.addMacros source span) := by
  apply Grows.foldl
  intro t found
  exact .add ..

theorem grows_addInclusions (span : Span) : t.Grows (t.addInclusions source span) := by
  apply Grows.foldl
  intro t found
  exact .add ..

theorem grows_addVariable (name : Lexeme) (detail : String) (span : Span) :
    t.Grows (t.addVariable name detail span) := by
  unfold addVariable
  split
  · exact .refl
  · exact .add ..

theorem grows_addGlobals (span : Span) (declared : List String) : t.Grows (t.addGlobals source span declared) := by
  apply Grows.foldl
  intro t found
  dsimp only
  split
  · exact .refl
  · exact grows_addVariable ..

theorem grows_addTextures (span : Span) : t.Grows (t.addTextures source span) := by
  apply Grows.foldl
  intro t found
  split
  · exact grows_addVariable ..
  · exact .refl

theorem grows_addTypedBuffers (span : Span) : t.Grows (t.addTypedBuffers source span) := by
  apply Grows.foldl
  intro t found
  split
  · exact grows_addVariable ..
  · exact .refl

theorem grows_addGroupVariables (span : Span) : t.Grows (t.addGroupVariables source span) := by
  apply Grows.foldl
  intro t found
  exact grows_addVariable ..

theorem grows_addWritableTextures (span : Span) : t.Grows (t.addWritableTextures source span) := by
  apply Grows.foldl
  intro t found
  split
  · exact grows_addVariable ..
  · exact .refl

theorem grows_addCode (span : Span) : t.Grows (t.addCode source span) := by
  refine (grows_addStructs t source span).trans ?_
  refine (grows_addBuffers _ source span).trans ?_
  refine (grows_addFunctions _ source span (source.declaredTypes span)).trans ?_
  refine (grows_addKernels _ source span).trans ?_
  refine (grows_addMacros _ source span).trans ?_
  refine (grows_addInclusions _ source span).trans ?_
  refine (grows_addGlobals _ source span (source.declaredTypes span)).trans ?_
  refine (grows_addTextures _ source span).trans ?_
  refine (grows_addTypedBuffers _ source span).trans ?_
  exact (grows_addGroupVariables _ source span).trans (grows_addWritableTextures _ source span)

/-! ## Shader documents -/

variable {t} in
theorem grows_of_addShader {shader : Outline × Block} (h : t.addShader source = some shader) : t.Grows shader.1 := by
  obtain ⟨found, -, h⟩ := Option.bind_eq_some_iff.1 h
  obtain ⟨braces, -, h⟩ := Option.bind_eq_some_iff.1 h
  cases h
  exact .add t none ⟨"Shader", found.value.2.text, .file, .between found.span.start braces.1.stop, found.value.1⟩

theorem grows_addBlocks (parent : Block) (name : String) (limit : Option Nat) :
    t.Grows (t.addBlocks source parent name limit).1 := by
  apply Grows.foldl_fst
  intro t blocks found
  dsimp only
  split
  · exact .refl
  · split
    · exact .refl
    · split
      · exact .refl
      · exact .add ..

theorem grows_addProperties (shader : Block) : t.Grows (t.addProperties source shader) := by
  have blocks := grows_addBlocks t source shader "Properties" (some 1)
  unfold addProperties
  dsimp only
  split
  · exact blocks
  · refine blocks.trans (Grows.foldl ?_ _ _)
    intro t found
    exact .add ..

theorem grows_addRegions (level : Block) : t.Grows (t.addRegions source level).1 := by
  apply Grows.foldl_fst
  intro t regions found
  dsimp only
  split
  · exact .refl
  · split
    · exact .refl
    · exact .add ..

theorem grows_addRegionStructs (region : Block) : t.Grows (t.addRegionStructs source region).1 := by
  apply Grows.foldl_fst
  intro t structs found
  dsimp only
  split
  · exact .refl
  · exact .add ..

theorem grows_addMethods (region : Block) : t.Grows (t.addMethods source region).1 := by
  apply Grows.foldl_fst
  intro t methods found
  dsimp only
  split
  · exact .refl
  · split
    · exact .refl
    · exact (Grows.add ..).trans (grows_addParameters ..)

theorem grows_addRegionVariables (block : Block) : t.Grows (t.addRegionVariables source block) := by
  apply Grows.foldl
  intro t found
  dsimp only
  split
  · exact .refl
  · exact .add ..

theorem grows_addRegionContents (region : Block) : t.Grows (t.addRegionContents source region) := by
  unfold addRegionContents
  refine Grows.trans ?_ (grows_addRegionVariables _ source region)
  refine Grows.trans ?_ (Grows.foldl (fun t method => grows_addRegionVariables t source method) _ _)
  refine Grows.trans ?_ (Grows.foldl (fun t (block : Block) => grows_addMembers t source block.id block.body) _ _)
  exact (grows_addRegionStructs t source region).trans (grows_addMethods _ source region)

theorem grows_forBlocks {pass : Outline → Block → Outline × List Block}
    (h : ∀ (t : Outline) block, t.Grows (pass t block).1)
    (blocks : List Block) : t.Grows (forBlocks pass t blocks).1 := by
  apply Grows.foldl_fst
  intro t found block
  exact h t block

theorem grows_addShaderDocument : t.Grows (t.addShaderDocument source) := by
  unfold addShaderDocument
  split
  · exact .refl
  · rename_i t' shader found
    refine Grows.trans ?_ (Grows.foldl (fun t region => grows_addRegionContents t source region) _ _)
    refine Grows.trans ?_ (grows_forBlocks _ (fun t block => grows_addRegions t source block) _)
    refine Grows.trans ?_ (grows_forBlocks _ (fun t block => grows_addBlocks t source block "Pass" none) _)
    refine Grows.trans ?_ (grows_addBlocks _ source shader "SubShader" none)
    exact (grows_of_addShader source found).trans (grows_addProperties t' source shader)

end

/-! ## Extraction -/

theorem grows_extract (language : Language) (text : String) : empty.Grows (extract language text) := by
  cases language with
  | shaderLab => exact grows_addShaderDocument ..
  | hlsl => exact grows_addCode ..

/-- The outline of every text is a forest. -/
theorem isForest_extract (language : Language) (text : String) : (extract language text).IsForest :=
  isForest_empty.of_grows (grows_extract language text)

end Outline

end ShaderAnalysis
