import ShaderAnalysis.Proofs.Outline.GroupVariable
import ShaderAnalysis.Proofs.Outline.Methods
import ShaderAnalysis.Proofs.Outline.Visible

/-!
# Variables of shader documents have types

A variable of a region or function of a shader document is recorded if its type is known where it stands, in the
outline as far as it is read. This outline is extended only by putting symbols into it, so the type is known there in
the whole outline, too (`types_stay_visible`).
-/

namespace ShaderAnalysis

namespace Outline

open Scanner

/-- What is recorded of a variable in a region. -/
def RegionVariable.symbol (d : RegionVariable) : Symbol where
  name := d.name.text
  detail := d.type.text ++ (if d.size.all (·.text.isEmpty) then "" else sizeText d.size)
  kind := .variable
  span := .between d.type.span.start (match d.size with
    | some size => size.span.stop + 1
    | none => d.name.span.stop)
  selection := d.name.span

/-- The symbol is a region of code or a function, and this is the span of its contents. -/
inductive IsCode (text : String) (f : Symbol) (body : Span) : Prop where
  | region {level : Span} {first last : Found Lexeme} (kind : f.kind = .package)
      (opens : first ∈ (Source.ofText text).findAll level (wholeKeyword regionWords))
      (named : f.name = Text.asciiUpper first.value.text)
      (closes : last ∈ (Source.ofText text).findAll level (wholeKeyword [endWord f.name]))
      (contents : body = .between first.span.stop last.span.start)
  | function {span braces : Span} {found : Found FunctionHeader} (kind : f.kind = .method)
      (member : found ∈ (Source.ofText text).findAll span functionHeader) (headed : IsHeadedBy f found)
      (contents : (Source.ofText text).brackets.braceAt? (found.span.stop - 1) = some (braces, body))

/-- Where a variable below a symbol comes from: it is a parameter, or it is declared there with a type that is
visible. -/
inductive IsVariable (text : String) (t : Outline) (above : Nat) (s : Symbol) : Prop where
  | parameter {f : Symbol} {members : List Symbol} (here : t.get? above = some f)
      (declared : IsDeclared (.ofText text) f members) (member : s ∈ members)
  | declared {f : Symbol} {body : Span} {found : Found RegionVariable} (here : t.get? above = some f)
      (isCode : IsCode text f body) (member : found ∈ (Source.ofText text).findAll body regionVariable)
      (is : s = t.fit (some above) found.value.symbol)
      (visible : t.IsVisibleType found.value.type.span.start found.value.type.text)

/-- It is known of all variables where they come from. -/
structure IsJustified (text : String) (t : Outline) : Prop where
  forest : t.IsForest
  known : ∀ id s, t.get? id = some s → s.kind = .variable →
    ∃ above, t.parent? id = some above ∧ IsVariable text t above s

/-- The block is a region or a function of the outline. -/
def HasCode (text : String) (t : Outline) (b : Block) : Prop :=
  ∃ f, t.get? b.id = some f ∧ IsCode text f b.body

variable {text : String} {t t' : Outline} {id above : Nat} {f s : Symbol} {b : Block} {blocks : List Block}

theorem HasCode.keeps (hasCode : HasCode text t b) (keeps : t.Keeps t') : HasCode text t' b := by
  obtain ⟨f, here, isCode⟩ := hasCode
  exact ⟨f, keeps b.id f here, isCode⟩

/-! ## Steps -/

theorem IsVariable.push (isVariable : IsVariable text t above s) (forest : t.IsForest) (parent : Option Nat)
    (new : Symbol) : IsVariable text (t.push parent new).1 above s := by
  cases isVariable with
  | parameter here declared member => exact .parameter (get?_push_of_some here parent new) declared member
  | declared here isCode member is visible =>
    have here' := get?_push_of_some here parent new
    have visible := visible.extends (extends_push t parent new) forest (forest.push parent new)
    refine .declared here' isCode member ?_ visible
    rw [is, fit_some here, fit_some here']

namespace IsJustified

theorem push (justified : IsJustified text t) (parent : Option Nat) (new : Symbol)
    (known : new.kind = .variable → ∃ above, parent = some above ∧ IsVariable text t above (t.fit parent new)) :
    IsJustified text (t.push parent new).1 where
  forest := justified.forest.push parent new
  known := by
    intro id s here kind
    rw [get?_push] at here
    rw [parent?_push]
    split at here
    · rename_i isNew
      cases here
      obtain ⟨above, is, isVariable⟩ := known kind
      exact ⟨above, by rw [if_pos isNew, is], isVariable.push justified.forest parent new⟩
    · rename_i isOld
      obtain ⟨above, knows, isVariable⟩ := justified.known id s here kind
      exact ⟨above, by rw [if_neg isOld, knows], isVariable.push justified.forest parent new⟩

/-- Nothing is to be known of what is no variable. -/
theorem add_other (justified : IsJustified text t) (parent : Option Nat) {new : Symbol} (other : new.kind ≠ .variable) :
    IsJustified text (t.push parent new).1 :=
  justified.push parent new fun kind => absurd kind other

/-- The parameters of a function are put below it as they are. -/
theorem addAll (justified : IsJustified text t) (here : t.get? id = some f) {members all : List Symbol}
    (declared : IsDeclared (.ofText text) f all) (inside : ∀ m ∈ members, m ∈ all ∧
      f.span.covers m.span = true ∧ m.span.covers m.selection = true) :
    IsJustified text (t.addAll id members) := by
  induction members generalizing t with
  | nil => exact justified
  | cons m members ih =>
    obtain ⟨member, spanInside, selectionInside⟩ := inside m List.mem_cons_self
    have fits := fit_of_covers here spanInside selectionInside
    have isVariable : IsVariable text t id (t.fit (some id) m) := .parameter here declared (fits.symm ▸ member)
    rw [addAll_cons]
    exact ih (justified.push (some id) m fun _ => ⟨id, rfl, isVariable⟩) (get?_push_of_some here ..)
      fun m' isLater => inside m' (List.mem_cons_of_mem _ isLater)

end IsJustified

/-! ## Passes -/

section

variable (source : Source)

theorem isJustified_addBlocks (justified : IsJustified text t) (parent : Block) (name : String) (limit : Option Nat) :
    IsJustified text (t.addBlocks source parent name limit).1 := by
  refine List.foldlRecOn (motive := fun r : Outline × List Block => IsJustified text r.1) _ _ justified ?_
  rintro ⟨t', blocks⟩ justified found -
  dsimp only
  split
  · exact justified
  · split
    · exact justified
    · split
      · exact justified
      · exact justified.add_other _ nofun

theorem isJustified_addProperties (justified : IsJustified text t) (shader : Block) :
    IsJustified text (t.addProperties source shader) := by
  have blocks := isJustified_addBlocks source justified shader "Properties" (some 1)
  unfold addProperties
  dsimp only
  split
  · exact blocks
  · exact List.foldlRecOn _ _ blocks fun t' justified found _ => justified.add_other _ nofun

theorem isJustified_addRegionStructs (justified : IsJustified text t) (region : Block) :
    IsJustified text (t.addRegionStructs source region).1 ∧ t.Keeps (t.addRegionStructs source region).1 := by
  refine List.foldlRecOn (motive := fun r : Outline × List Block => IsJustified text r.1 ∧ t.Keeps r.1) _ _
    ⟨justified, .refl t⟩ ?_
  rintro ⟨t', structs⟩ ⟨justified, keeps⟩ found -
  dsimp only
  split
  · exact ⟨justified, keeps⟩
  · exact ⟨justified.add_other _ nofun, keeps.trans (keeps_push _ _ _)⟩

theorem isJustified_addMembers (justified : IsJustified text t) (id : Nat) (body : Span) :
    IsJustified text (t.addMembers source id body) ∧ t.Keeps (t.addMembers source id body) := by
  refine ⟨List.foldlRecOn _ _ justified fun t' justified found _ => ?_, (isFilled_addMembers ..).keeps⟩
  dsimp only
  split
  · exact justified
  · exact justified.add_other _ nofun

omit source in
theorem isJustified_forBlocks {pass : Outline → Block → Outline × List Block}
    (passes : ∀ (t : Outline) (b : Block), IsJustified text t → IsJustified text (pass t b).1)
    (justified : IsJustified text t) (blocks : List Block) : IsJustified text (forBlocks pass t blocks).1 :=
  List.foldlRecOn (motive := fun r : Outline × List Block => IsJustified text r.1) _ _ justified
    fun r justified b _ => passes r.1 b justified

omit source in
/-- One block after the other is filled. -/
theorem isJustified_foldl (blocks : List Block) {fill : Outline → Block → Outline} (justified : IsJustified text t)
    (fills : ∀ b ∈ blocks, ∀ t' : Outline, t.Keeps t' → IsJustified text t' →
      IsJustified text (fill t' b) ∧ t'.Keeps (fill t' b)) :
    IsJustified text (blocks.foldl fill t) ∧ t.Keeps (blocks.foldl fill t) := by
  refine List.foldlRecOn (motive := fun t' : Outline => IsJustified text t' ∧ t.Keeps t') _ _ ⟨justified, .refl t⟩ ?_
  rintro t' ⟨justified, keeps⟩ b member
  obtain ⟨justified, keeps'⟩ := fills b member t' keeps justified
  exact ⟨justified, keeps.trans keeps'⟩

end

/-- The second outline comes from the first one by a pass that returns regions or functions. -/
structure ReturnsCode (text : String) (t t' : Outline) (blocks : List Block) : Prop where
  justified : IsJustified text t'
  keeps : t.Keeps t'
  hasCode : ∀ b ∈ blocks, HasCode text t' b

theorem returnsCode_none (justified : IsJustified text t) : ReturnsCode text t t [] :=
  ⟨justified, .refl t, fun _ member => absurd member List.not_mem_nil⟩

theorem ReturnsCode.append {t'' : Outline} {more : List Block} (first : ReturnsCode text t t' blocks)
    (second : ReturnsCode text t' t'' more) : ReturnsCode text t t'' (blocks ++ more) where
  justified := second.justified
  keeps := first.keeps.trans second.keeps
  hasCode := by
    intro b member
    rcases List.mem_append.1 member with old | new
    · exact (first.hasCode b old).keeps second.keeps
    · exact second.hasCode b new

theorem returnsCode_addRegions (justified : IsJustified text t) (level : Block) :
    ReturnsCode text t (t.addRegions (.ofText text) level).1 (t.addRegions (.ofText text) level).2 := by
  refine List.foldlRecOn (motive := fun r : Outline × List Block => ReturnsCode text t r.1 r.2) _ _
    (returnsCode_none justified) ?_
  rintro ⟨t', regions⟩ before found member
  dsimp only
  split
  · exact before
  · split
    · exact before
    · rename_i stop isStop
      refine before.append ⟨before.justified.add_other _ nofun, keeps_push _ _ _, fun b isNew => ?_⟩
      rw [List.mem_singleton.1 isNew]
      exact ⟨_, (get?_push ..).trans (if_pos rfl), .region rfl member rfl (List.mem_of_find?_eq_some isStop) rfl⟩

theorem returnsCode_forBlocks {pass : Outline → Block → Outline × List Block}
    (passes : ∀ (t : Outline) (b : Block), IsJustified text t → ReturnsCode text t (pass t b).1 (pass t b).2)
    (justified : IsJustified text t) (blocks : List Block) :
    ReturnsCode text t (forBlocks pass t blocks).1 (forBlocks pass t blocks).2 := by
  refine List.foldlRecOn (motive := fun r : Outline × List Block => ReturnsCode text t r.1 r.2) _ _
    (returnsCode_none justified) ?_
  rintro ⟨t', found⟩ before b -
  exact before.append (passes t' b before.justified)

theorem returnsCode_addMethods (justified : IsJustified text t) {region : Block}
    (around : t.HasBlock (Span.Surrounds text) region) :
    ReturnsCode text t (t.addMethods (.ofText text) region).1 (t.addMethods (.ofText text) region).2 := by
  refine List.foldlRecOn (motive := fun r : Outline × List Block => ReturnsCode text t r.1 r.2) _ _
    (returnsCode_none justified) ?_
  rintro ⟨t', methods⟩ before found member
  dsimp only
  split
  · exact before
  · rename_i isFunction
    rw [Bool.or_eq_true, not_or, Bool.not_eq_true] at isFunction
    split
    · exact before
    · rename_i braces body isBraces
      obtain ⟨outer, here, -, surrounds⟩ := around.keeps before.keeps
      obtain ⟨headed, -⟩ := isHeadedBy_fit member isBraces here surrounds found.value.returns.text .method
      have isNew := (get?_push t' (some region.id) ⟨found.value.name.text, found.value.returns.text, .method,
        .between found.span.start braces.stop, found.value.name.span⟩ t'.size).trans (if_pos rfl)
      refine before.append ⟨?_, ?_, fun b isLast => ?_⟩
      · rw [addParameters_eq_addAll]
        refine (before.justified.add_other _ ?_).addAll isNew ⟨_, found, member, isFunction.1, headed, rfl⟩ ?_
        · exact nofun
        · intro m isParameter
          have isRead := headed.isRead member isParameter
          exact ⟨isParameter, isRead.inside, isRead.selection⟩
      · exact (keeps_push _ _ _).trans (isFilled_addParameters ..).keeps
      · rw [List.mem_singleton.1 isLast]
        exact ⟨_, (isFilled_addParameters ..).keeps _ _ isNew, .function rfl member headed isBraces⟩

/-- A variable is recorded only if its type is visible where it stands. -/
theorem isJustified_addRegionVariables (justified : IsJustified text t) (hasCode : HasCode text t b) :
    IsJustified text (t.addRegionVariables (.ofText text) b) ∧ t.Keeps (t.addRegionVariables (.ofText text) b) := by
  refine List.foldlRecOn (motive := fun t' : Outline => IsJustified text t' ∧ t.Keeps t') _ _ ⟨justified, .refl t⟩ ?_
  rintro t' ⟨justified, keeps⟩ found member
  dsimp only
  split
  · exact ⟨justified, keeps⟩
  · rename_i isKnown
    rw [Bool.or_eq_true, not_or, Bool.not_eq_true', Bool.not_eq_false] at isKnown
    obtain ⟨f, here, isCode⟩ := hasCode.keeps keeps
    refine ⟨justified.push (some b.id) found.value.symbol fun _ => ⟨b.id, rfl, ?_⟩, keeps.trans (keeps_push _ _ _)⟩
    exact .declared here isCode member rfl (isTypeAt_iff.1 isKnown.2)

theorem isJustified_addRegionContents (justified : IsJustified text t) (around : t.HasBlock (Span.Surrounds text) b)
    (hasCode : HasCode text t b) :
    IsJustified text (t.addRegionContents (.ofText text) b) ∧ t.Keeps (t.addRegionContents (.ofText text) b) := by
  obtain ⟨justified, structs⟩ := isJustified_addRegionStructs (.ofText text) justified b
  have methods := returnsCode_addMethods justified (around.keeps structs)
  obtain ⟨justified, members⟩ := isJustified_foldl (t.addRegionStructs (.ofText text) b).2 methods.justified
    fun b _ t' _ justified => isJustified_addMembers (.ofText text) justified b.id b.body
  obtain ⟨justified, variables'⟩ := isJustified_foldl _ justified fun b member t' keeps justified =>
    isJustified_addRegionVariables justified ((methods.hasCode b member).keeps (members.trans keeps))
  have before := ((structs.trans methods.keeps).trans members).trans variables'
  obtain ⟨justified, keeps⟩ := isJustified_addRegionVariables justified (hasCode.keeps before)
  exact ⟨justified, before.trans keeps⟩

/-! ## Documents -/

theorem returnsCode_addAllRegions (justified : IsJustified text t) (shader : Block) :
    IsJustified text (t.addAllRegions (.ofText text) shader).1 ∧
      ∀ b ∈ (t.addAllRegions (.ofText text) shader).2, HasCode text (t.addAllRegions (.ofText text) shader).1 b := by
  have subshaders := isJustified_addBlocks (.ofText text) (isJustified_addProperties (.ofText text) justified shader)
    shader "SubShader" none
  have passes := isJustified_forBlocks
    (fun t b justified => isJustified_addBlocks (.ofText text) justified b "Pass" none) subshaders
  have regions (blocks levels : List Block) := returnsCode_forBlocks
    (fun t b justified => returnsCode_addRegions justified b) (passes blocks) levels
  exact ⟨(regions _ _).justified, (regions _ _).hasCode⟩

theorem isJustified_addShaderDocument (text : String) : IsJustified text (empty.addShaderDocument (.ofText text)) := by
  have justified : IsJustified text empty := ⟨isForest_empty, fun _ _ here => by cases here⟩
  have accounts := accounts_empty text (HasParameters (.ofText text))
  cases isShader : empty.addShader (.ofText text) with
  | none =>
    rw [addShaderDocument, isShader]
    exact justified
  | some shader =>
    rw [addShaderDocument_of_addShader isShader]
    have isFound := returns_of_addShader accounts isShader
    have arounds := returns_addAllRegions isFound.accounts (isFound.holds shader.2 (List.mem_singleton_self _))
    have justified : IsJustified text shader.1 := by
      obtain ⟨found, -, h⟩ := Option.bind_eq_some_iff.1 isShader
      obtain ⟨braces, -, h⟩ := Option.bind_eq_some_iff.1 h
      cases h
      exact justified.add_other none fun same => by cases same
    obtain ⟨justified, hasCode⟩ := returnsCode_addAllRegions justified shader.2
    refine (isJustified_foldl _ justified fun b member t' keeps justified => ?_).1
    have member := List.mem_mergeSort.1 member
    have around := (arounds.holds b member).keeps keeps
    exact isJustified_addRegionContents justified around ((hasCode b member).keeps keeps)

/-- However an outline grows, a cursor stays at the symbols that it is at, and a type stays one. So all variables of a
shader document apart from parameters have types that are visible in the whole outline where they are declared. -/
theorem types_stay_visible :
    (∀ t t' : Outline, t.IsForest → t.Grows t' → ∀ offset, t.stackAt offset <+: t'.stackAt offset ∧
      ∀ name, t.isTypeAt offset name = true → t'.isTypeAt offset name = true) ∧
    ∀ text id s, (extract .shaderLab text).get? id = some s → s.kind = .variable →
      ¬IsParameter text (extract .shaderLab text) id →
      ∃ above f body, ∃ found ∈ (Source.ofText text).findAll body regionVariable,
        (extract .shaderLab text).parent? id = some above ∧ (extract .shaderLab text).get? above = some f ∧
        IsCode text f body ∧ s = (extract .shaderLab text).fit (some above) found.value.symbol ∧
        (extract .shaderLab text).IsVisibleType found.value.type.span.start found.value.type.text := by
  constructor
  · intro t t' forest grows offset
    have forest' := forest.of_grows grows
    refine ⟨grows.extends.stackAt forest forest' offset, fun name isType => ?_⟩
    exact isTypeAt_iff.2 ((isTypeAt_iff.1 isType).extends grows.extends forest forest')
  · intro text id s here kind noParameter
    obtain ⟨above, knows, isVariable⟩ := (isJustified_addShaderDocument text).known id s here kind
    cases isVariable with
    | parameter isAbove declared member =>
      exact absurd ⟨s, above, _, _, here, knows, isAbove, declared, member⟩ noParameter
    | @declared f body found isAbove isCode member is visible =>
      exact ⟨above, f, body, found, member, knows, isAbove, isCode, is, visible⟩

/-- A function does not start with its name. -/
theorem IsDeclared.start_lt {members : List Symbol} (declared : IsDeclared (.ofText text) f members) :
    f.span.start < f.selection.start := by
  obtain ⟨span, found, member, -, headed, -⟩ := declared
  obtain ⟨⟨_, ⟨params, rfl, -, -⟩, areRead⟩, -⟩ := mem_findAll_ofSpan ensures_functionHeader member
  obtain ⟨c, d, -, -, ran, -⟩ := mem_findFrom member
  obtain ⟨gap, blanks, chars, tail, isRead⟩ := isRead_functionHeader ran
  have start := (places_of_mem_findAll member).1
  have before := areRead.start_lt_stop (l := found.value.returns) (by simp) isRead.isReturns.1
  have behind := (List.pairwise_cons.1 areRead.pairwise).1 found.value.name (by simp)
  rw [headed.start, headed.selection]
  omega

/-- What is below a region, which starts with its name, is no parameter. -/
theorem not_isParameter_of_region (knows : t.parent? id = some above) (isAbove : t.get? above = some f)
    (starts : f.selection.start = f.span.start) : ¬IsParameter text t id := by
  rintro ⟨s, above', f', members, -, knows', isAbove', declared, -⟩
  cases knows.symm.trans knows'
  cases isAbove.symm.trans isAbove'
  have := declared.start_lt
  omega

/-- A variable of a region, with a struct of the region as its type. -/
def structVariable : String :=
  "Shader \"s\" \x7b\nCGPROGRAM\nstruct S \x7b float x; \x7d;\nS v;\nENDCG\n\x7d\n"

theorem extract_structVariable : extract .shaderLab structVariable =
    ⟨#[⟨⟨"Shader", "\"s\"", .file, .between 0 58, .between 0 6⟩, none, [1]⟩,
      ⟨⟨"CGPROGRAM", "", .package, .between 13 56, .between 13 22⟩, some 0, [2, 4]⟩,
      ⟨⟨"S", "", .struct, .between 23 44, .between 30 31⟩, some 1, [3]⟩,
      ⟨⟨"x", "float", .field, .between 34 42, .between 40 41⟩, some 2, []⟩,
      ⟨⟨"v", "S", .variable, .between 46 49, .between 48 49⟩, some 1, []⟩], [0]⟩ := by
  decide +kernel

/-- The struct stays visible where the variable is declared, and that is why the variable is recorded. -/
theorem visible_structVariable :
    (extract .shaderLab structVariable).stackAt 46 <+:
      ((extract .shaderLab structVariable).push (some 1) default).1.stackAt 46 ∧
    ((extract .shaderLab structVariable).push (some 1) default).1.isTypeAt 46 "S" = true ∧
    ∃ above f body, ∃ found ∈ (Source.ofText structVariable).findAll body regionVariable,
      (extract .shaderLab structVariable).parent? 4 = some above ∧
      (extract .shaderLab structVariable).get? above = some f ∧ IsCode structVariable f body ∧
      ⟨"v", "S", .variable, .between 46 49, .between 48 49⟩ =
        (extract .shaderLab structVariable).fit (some above) found.value.symbol ∧
      (extract .shaderLab structVariable).IsVisibleType found.value.type.span.start found.value.type.text := by
  obtain ⟨stack, types⟩ := types_stay_visible.1 _ _ (isForest_extract .shaderLab structVariable)
    (.push .refl (some 1) default) 46
  refine ⟨stack, types "S" ?_, types_stay_visible.2 structVariable 4 _ ?_ rfl ?_⟩
  · rw [extract_structVariable]
    decide +kernel
  · rw [extract_structVariable]
    rfl
  · rw [extract_structVariable]
    exact not_isParameter_of_region rfl rfl rfl

end Outline

end ShaderAnalysis
