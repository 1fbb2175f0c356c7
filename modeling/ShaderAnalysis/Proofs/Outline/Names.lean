import ShaderAnalysis.Outline.Extract
import ShaderAnalysis.Proofs.Lexical.Mask
import ShaderAnalysis.Proofs.Outline.Code
import ShaderAnalysis.Proofs.Outline.Shader

/-!
# Names of symbols

Extraction reads names off the masked text. A name that is a word has no space, so it stands in the text
itself, too (`slice_selection_extract`): in plain code always, in a shader document if and only if clamping has
not cut the selection.
-/

namespace ShaderAnalysis

namespace Outline

/-! ## Extraction -/

theorem hasRoom_ofText (text : String) : (Source.ofText text).brackets.HasRoom :=
  Brackets.hasRoom_ofBytes _

theorem isOrderly_extract_hlsl (text : String) :
    (extract .hlsl text).IsOrderly (Symbol.IsExact (Lexical.mask text)) :=
  isOrderly_addCode (hasRoom_ofText text) (isOrderly_empty _)

theorem isOrderly_extract_shaderLab (text : String) :
    (extract .shaderLab text).IsOrderly (Symbol.IsExactUnlessCut (Lexical.mask text)) :=
  isOrderly_addShaderDocument (hasRoom_ofText text) (isOrderly_empty _)

/-! ## Names in the text -/

/-- A word in the masked text stands in the text. -/
theorem slice_of_isWord {text name : String} {span : Span} (isWord : Text.IsWord name.toList)
    (masked : Text.slice (Lexical.mask text) span = name) : Text.slice text span = name := by
  rw [← masked] at isWord ⊢
  apply Lexical.slice_of_slice_mask
  · exact fun empty => isWord.1 (String.toList_eq_nil_iff.2 empty)
  · exact fun space => absurd (isWord.2 ' ' space) (by decide)

theorem length_of_slice {text name : String} {span : Span} (nonempty : name ≠ "") (h : Text.slice text span = name) :
    span.length = name.utf8ByteSize := by
  subst h
  obtain ⟨_, _, -, -, stop⟩ := Text.exists_append_of_slice nonempty
  rw [Span.length, Text.utf8ByteSize_eq_length8]
  omega

/-- In plain code, every symbol but an included file has its name where its selection is, and an included file has
there the path with its comments masked. In a shader document, a symbol that is not a block has its name where
its selection is if and only if the selection is as long as the name. -/
theorem slice_selection_extract (text : String) :
    (∀ id s, (extract .hlsl text).get? id = some s → s.kind ≠ .module → Text.slice text s.selection = s.name) ∧
      (∀ id s, (extract .hlsl text).get? id = some s → Text.slice (Lexical.mask text) s.selection = s.name) ∧
      ∀ id s, (extract .shaderLab text).get? id = some s → s.kind ≠ .file → s.kind ≠ .package →
        (Text.slice text s.selection = s.name ↔ s.selection.length = s.name.utf8ByteSize) := by
  refine ⟨fun id s here named => ?_, fun id s here => ?_, fun id s here notShader notBlock => ?_⟩
  · obtain ⟨masked, isModule | isWord⟩ := (isOrderly_extract_hlsl text).named id s here
    · exact absurd isModule named
    · exact slice_of_isWord isWord masked
  · exact ((isOrderly_extract_hlsl text).named id s here).1
  · rcases (isOrderly_extract_shaderLab text).named id s here with isBlock | ⟨isWord, uncut⟩
    · revert isBlock notShader notBlock
      cases s.kind <;> simp [SymbolKind.isBlock]
    · constructor
      · exact length_of_slice fun empty => isWord.1 (by rw [empty]; rfl)
      · intro whole
        rw [Text.utf8ByteSize_eq_length8] at whole
        exact slice_of_isWord isWord (uncut whole)

/-- A shader with a struct that is still open where its region ends. -/
def openStruct : String :=
  "Shader \"S\" \x7b\n  CGINCLUDE\n  struct V \x7b\n    float p;\n  ENDCG\n  float q;\n\x7d\n"

/-- The field inside the region has its name where its selection is. -/
theorem slice_selection_openStruct :
    (extract .shaderLab openStruct).get? 3 = some ⟨"p", "float", .field, .between 42 50, .between 48 49⟩ ∧
      Text.slice openStruct (.between 48 49) = "p" := by
  have here : (extract .shaderLab openStruct).get? 3 =
      some ⟨"p", "float", .field, .between 42 50, .between 48 49⟩ := by decide +kernel
  refine ⟨here, ?_⟩
  exact ((slice_selection_extract openStruct).2.2 3 _ here (by decide) (by decide)).2 (by decide)

/-- The field behind the region is cut, and no name is left of it. -/
theorem openStruct_cuts_name : ¬∀ id s, (extract .shaderLab openStruct).get? id = some s → s.kind ≠ .file →
    s.kind ≠ .package → Text.slice openStruct s.selection = s.name := by
  intro named
  have here : (extract .shaderLab openStruct).get? 4 =
      some ⟨"q", "float", .field, .between 58 58, .between 58 58⟩ := by decide +kernel
  exact absurd (named 4 _ here (by decide) (by decide)) (by decide +kernel)

end Outline

end ShaderAnalysis
