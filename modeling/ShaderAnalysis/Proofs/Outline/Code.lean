import ShaderAnalysis.Outline.Code
import ShaderAnalysis.Proofs.Outline.Declaration

/-!
# Outlines of plain code are read off the text

In plain code a declaration reaches to the closing brace behind its header, so clamping cuts nothing that is
declared in it: every name of the outline is what the text has at its selection, and what is declared in one
declaration does not overlap (`isOrderly_addCode`).
-/

namespace ShaderAnalysis

/-- The name of the symbol is what the text has at its selection; except for modules, it is a word. -/
def Symbol.IsExact (text : String) (s : Symbol) : Prop :=
  Text.slice text s.selection = s.name ∧ (s.kind = .module ∨ Text.IsWord s.name.toList)

namespace Outline

open Scanner

variable {text : String} {t t' : Outline} {id : Nat} {span : Span} {s outer : Symbol}

/-! ## Recording declarations -/

theorem IsOrderly.add_root (orderly : t.IsOrderly (Symbol.IsExact text)) (covers : s.span.covers s.selection = true)
    (isExact : s.IsExact text) : (t.add none s).IsOrderly (Symbol.IsExact text) := by
  refine orderly.push (fun above is => by cases is) ?_
  rw [fit_none, Span.clampTo_of_covers covers]
  exact isExact

theorem IsOrderly.add_read (orderly : t.IsOrderly (Symbol.IsExact text)) (isRead : s.IsRead text span) :
    (t.add none s).IsOrderly (Symbol.IsExact text) :=
  orderly.add_root isRead.selection ⟨isRead.name, .inr isRead.word⟩

/-- What is read off a span inside a declaration is put below it as it is. -/
theorem IsOrderly.fill (orderly : t.IsOrderly (Symbol.IsExact text)) (here : t.get? id = some outer)
    (isOpen : t.IsOpen id span.start) (covers : outer.span.covers span = true) (filled : IsFilled text span id t t') :
    t'.IsOrderly (Symbol.IsExact text) ∧ t'.get? id = some outer ∧ t'.IsOpen id span.stop := by
  refine orderly.filled here isOpen filled fun s isRead => ?_
  rw [Span.clampTo_of_covers (isRead.mono covers).inside, Span.clampTo_of_covers isRead.selection]
  exact ⟨isRead.name, .inr isRead.word⟩

/-- A new declaration, and what is read off a span of it. -/
theorem IsOrderly.declare (orderly : t.IsOrderly (Symbol.IsExact text)) (isRead : s.IsRead text span) {body : Span}
    (covers : s.span.covers body = true) (filled : IsFilled text body t.size (t.add none s) t') :
    t'.IsOrderly (Symbol.IsExact text) ∧ t'.get? t.size = some s ∧ t'.IsOpen t.size body.stop := by
  have here : (t.add none s).get? t.size = some s := by
    rw [add, get?_push, if_pos rfl, fit_none, Span.clampTo_of_covers isRead.selection]
  exact (orderly.add_read isRead).fill here (isOpen_push t none s body.start) covers filled

/-! ## Scanners -/

theorem ensures_bufferHeader : Ensures [] bufferHeader fun h ls =>
    ls = [h.2] ∧ Text.IsWord h.2.text.toList := by
  refine .skip moves_wordFromStart fun keyword => .skip (moves_guard _) fun _ => .skip moves_gap fun _ => ?_
  refine .word fun name isWord => .skip moves_registerBinding.orNone.discard fun _ => ?_
  refine .skip moves_blanks fun _ => .skip (moves_char _) fun _ => ?_
  exact ensures_pure (List.Sublist.refl _) ⟨rfl, isWord⟩

theorem moves_packOffset : Moves packOffset := by
  refine (moves_char ':').bind fun _ => moves_blanks.bind fun _ => (moves_literal _).bind fun _ => ?_
  exact moves_blanks.bind fun _ => ensures_argumentText.moves.discard

theorem ensures_bufferMember : Ensures [] bufferMember IsDeclarator := by
  refine .wordFromStart fun type _ => .skip moves_gap fun _ => .word fun name isWord => ?_
  refine .skip moves_arraySize.orNone fun _ => .skip moves_blanks fun _ => ?_
  refine .skip moves_packOffset.orNone.discard fun _ => .skip moves_blanks fun _ => .skip (moves_char _) fun _ => ?_
  exact ensures_pure (List.Sublist.refl _) ⟨rfl, isWord⟩

theorem moves_paddedNumber : Moves paddedNumber :=
  moves_blanks.bind fun _ => (moves_run _).bind fun n => moves_blanks.bind fun _ => moves_pure n

theorem ensures_kernelHeader : Ensures [] kernelHeader fun h ls =>
    ls = [h.name] ∧ Text.IsWord h.name.text.toList := by
  refine .skip (moves_char _) fun _ => .skip moves_blanks fun _ => .skip (moves_literal _) fun _ => ?_
  refine .skip moves_blanks fun _ => .skip (moves_char _) fun _ => .skip moves_paddedNumber fun x => ?_
  refine .skip (moves_char _) fun _ => .skip moves_paddedNumber fun y => .skip (moves_char _) fun _ => ?_
  refine .skip moves_paddedNumber fun z => .skip (moves_char _) fun _ => .skip moves_blanks fun _ => ?_
  refine .skip (moves_char _) fun _ => .skip moves_blanks fun _ => .skip (moves_literal _) fun _ => ?_
  refine .skip moves_gap fun _ => .word fun name isWord => .skip moves_blanks fun _ => .skip (moves_char _) fun _ => ?_
  exact ensures_pure (List.Sublist.refl _) ⟨rfl, isWord⟩

theorem moves_directive (name : String) : Moves (directive name) := by
  refine (moves_require _).bind fun _ => moves_spaces.bind fun _ => (moves_char '#').bind fun _ => ?_
  exact moves_spaces.bind fun _ => moves_literal name

theorem moves_macroParameters : Moves macroParameters :=
  (moves_char '(').bind fun _ => (moves_runAny _).bind fun inner => (moves_char ')').bind fun _ => moves_pure inner

theorem ensures_macroDefinition : Ensures [] macroDefinition fun d ls =>
    ls = [d.name] ∧ Text.IsWord d.name.text.toList := by
  refine .skip (moves_directive _) fun _ => .skip moves_spaceGap fun _ => .word fun name isWord => ?_
  refine .skip moves_macroParameters.orNone fun params => .skip moves_spaces fun _ => .skip (moves_runAny _) fun _ => ?_
  exact ensures_pure (List.Sublist.refl _) ⟨rfl, isWord⟩

theorem ensures_inclusion : Ensures [] inclusion fun path ls => ls = [path] := by
  refine .skip (moves_directive _) fun _ => .skip moves_spaces fun _ => .skip (moves_satisfy _).discard fun _ => ?_
  refine (ensures_run _).bind fun path ls same => .skip (moves_satisfy _).discard fun _ => ?_
  exact ensures_pure (List.Sublist.refl _) same

theorem sublist_of_globalWords? {row modifiers : List Lexeme} {type name : Lexeme}
    (h : globalWords? row = some (modifiers, type, name)) : [type, name].Sublist row := by
  fun_induction globalWords? row generalizing modifiers with
  | case1 =>
    cases h
    exact List.Sublist.refl _
  | case2 modifier rest _ _ ih =>
    obtain ⟨⟨_, type', name'⟩, found, same⟩ := Option.map_eq_some_iff.1 h
    cases same
    exact (ih found).cons modifier
  | case3 => cases h
  | case4 => cases h

theorem moves_lineArraySize : Moves lineArraySize := by
  refine (moves_char '[').bind fun _ => moves_spaces.bind fun _ => moves_word.bind fun size => ?_
  exact moves_spaces.bind fun _ => (moves_char ']').bind fun _ => moves_pure size

theorem moves_lineRegisterBinding : Moves lineRegisterBinding := by
  refine (moves_char ':').bind fun _ => moves_spaces.bind fun _ => (moves_literal _).bind fun _ => ?_
  exact moves_spaces.bind fun _ => moves_macroParameters.discard

theorem ensures_globalDeclaration : Ensures [] globalDeclaration fun d ls =>
    ls = [d.type, d.name] ∧ Text.IsWord d.name.text.toList := by
  refine .skip (moves_require _) fun _ => .skip moves_spaces fun _ => ?_
  refine (ensures_wordRow moves_spaceGap).bind fun row ls ⟨same, words⟩ => ?_
  split
  · exact ensures_failure
  · rename_i modifiers type name found
    have fewer := sublist_of_globalWords? found
    have isWord := words name (fewer.subset (by simp))
    refine .skip moves_spaces fun _ => .skip moves_lineArraySize.orNone fun size => .skip moves_spaces fun _ => ?_
    refine .skip moves_lineRegisterBinding.orNone.discard fun _ => .skip moves_spaces fun _ => ?_
    exact .skip (moves_char _) fun _ => ensures_pure (same ▸ fewer) ⟨rfl, isWord⟩

theorem moves_elementType : Moves elementType := by
  refine moves_blanks.bind fun _ => (moves_char '<').bind fun _ => moves_blanks.bind fun _ => ?_
  exact moves_word.bind fun element => moves_blanks.bind fun _ => (moves_char '>').bind fun _ => moves_pure element

theorem ensures_resourceName : Ensures [] resourceName fun name ls => ls = [name] ∧ Text.IsWord name.text.toList := by
  refine .skip moves_gap fun _ => .word fun name isWord => .skip moves_registerBinding.orNone.discard fun _ => ?_
  refine .skip moves_blanks fun _ => .skip (moves_char _) fun _ => ?_
  exact ensures_pure (List.Sublist.refl _) ⟨rfl, isWord⟩

/-- What scanners for resources read of the name. -/
def IsResource (d : ResourceDeclaration) (ls : List Lexeme) : Prop :=
  ls = [d.name] ∧ Text.IsWord d.name.text.toList

theorem ensures_resourceDeclaration (types : List String) : Ensures [] (resourceDeclaration types) IsResource := by
  refine .skip moves_wordFromStart fun type => .skip (moves_guard _) fun _ => ?_
  refine .skip moves_elementType.orNone fun element => ensures_resourceName.bind fun name ls holds => ?_
  exact ensures_pure (List.Sublist.refl _) holds

theorem ensures_writable : Ensures [] addWritableTextures.writable IsResource := by
  refine (ensures_resourceDeclaration _).bind fun d ls holds => .skip (moves_guard _) fun _ => ?_
  exact ensures_pure (List.Sublist.refl _) holds

theorem ensures_groupVariable : Ensures [] groupVariable fun d ls =>
    ls = [d.name] ∧ Text.IsWord d.name.text.toList := by
  refine .skip moves_wordFromStart fun _ => .skip (moves_guard _) fun _ => .skip moves_gap fun _ => ?_
  refine .skip moves_word fun type => .skip moves_gap fun _ => .word fun name isWord => ?_
  refine .skip moves_arraySize.orNone fun _ => .skip moves_arraySize.orNone fun _ => .skip moves_blanks fun _ => ?_
  exact .skip (moves_char _) fun _ => ensures_pure (List.Sublist.refl _) ⟨rfl, isWord⟩

/-! ## Passes -/

section

variable {source : Source} {span : Span}

theorem isFilled_addBufferMembers (t : Outline) (id : Nat) (body : Span) :
    IsFilled source.text body id t ((source.findAll body bufferMember).foldl (fun t member =>
      let d := member.value
      if Hlsl.isDeclarationGuard d.type.text then t
      else
        t.add (some id) ⟨d.name.text, d.type.text ++ sizeText d.sizes.head?, .field,
          .between d.type.span.start member.span.stop, d.name.span⟩) t) := by
  apply isFilled_foldl _ (pairwise_findAll ..)
  · exact fun found member => (mem_findAll_ofSpan ensures_bufferMember member).2
  · intro found member t
    dsimp only
    split
    · exact .inl rfl
    · obtain ⟨⟨ls, ⟨rfl, isWord⟩, areRead⟩, -⟩ := mem_findAll_ofSpan ensures_bufferMember member
      exact .inr ⟨_, rfl, areRead.isDeclarator isWord _ _ (areRead.stop_le (by simp)) (Nat.le_refl _), rfl⟩

theorem isOrderly_addStructs (room : source.brackets.HasRoom) (orderly : t.IsOrderly (Symbol.IsExact source.text)) :
    (t.addStructs source span).IsOrderly (Symbol.IsExact source.text) := by
  refine foldl_findAll ensures_structHeader ?_ orderly
  rintro t found _ orderly ⟨rfl, isWord⟩ areRead -
  dsimp only
  split
  · exact orderly
  · rename_i region body braces
    split
    · exact orderly
    · obtain ⟨reaches, -, covers⟩ := room.braceAt?_behind found.span.start_le_stop braces
      have name := areRead.bounds found.value (by simp)
      have inside : (Span.between found.span.start region.stop).covers found.value.span = true := by
        simp only [Span.covers_iff, Span.start_between, Span.stop_between]
        omega
      have isRead := areRead.isRead (List.mem_singleton_self _) isWord "struct" .struct inside
      exact (orderly.declare isRead covers (isFilled_addMembers _ source t.size body)).1

theorem isOrderly_addBuffers (room : source.brackets.HasRoom) (orderly : t.IsOrderly (Symbol.IsExact source.text)) :
    (t.addBuffers source span).IsOrderly (Symbol.IsExact source.text) := by
  refine foldl_findAll ensures_bufferHeader ?_ orderly
  rintro t found _ orderly ⟨rfl, isWord⟩ areRead -
  dsimp only
  split
  · exact orderly
  · rename_i region body braces
    obtain ⟨reaches, -, covers⟩ := room.braceAt?_behind found.span.start_le_stop braces
    have name := areRead.bounds found.value.2 (by simp)
    have inside : (Span.between found.span.start region.stop).covers found.value.2.span = true := by
      simp only [Span.covers_iff, Span.start_between, Span.stop_between]
      omega
    have isRead := areRead.isRead (List.mem_singleton_self _) isWord found.value.1.text .struct inside
    exact (orderly.declare isRead covers (isFilled_addBufferMembers _ t.size body)).1

theorem isOrderly_addFunctions (room : source.brackets.HasRoom) (declared : List String)
    (orderly : t.IsOrderly (Symbol.IsExact source.text)) :
    (t.addFunctions source span declared).IsOrderly (Symbol.IsExact source.text) := by
  refine foldl_findAll ensures_functionHeader ?_ orderly
  rintro t found _ orderly ⟨params, rfl, list, isWord⟩ areRead -
  dsimp only
  split
  · exact orderly
  · split
    · exact orderly
    · rename_i region body braces
      split
      · exact orderly
      · have inside := (areRead.bounds found.value.returns (by simp)).2
        obtain ⟨reaches, behind, covers⟩ := room.braceAt?_behind
          (Nat.le_trans found.value.returns.span.start_le_stop inside) braces
        -- the return type, the name, the parameters and the body follow one another
        have order : found.value.returns.span.stop ≤ found.value.name.span.start ∧
            found.value.returns.span.stop ≤ params.span.start := by
          have := areRead.pairwise
          simp only [List.pairwise_cons, List.mem_cons, List.not_mem_nil, or_false, forall_eq_or_imp, forall_eq] at this
          exact this.1
        have := found.value.returns.span.start_le_stop
        have name := areRead.bounds found.value.name (by simp)
        have last := areRead.bounds params (by simp)
        have inBody : (Span.between found.value.returns.span.start region.stop).covers found.value.name.span = true := by
          simp only [Span.covers_iff, Span.start_between, Span.stop_between]
          omega
        obtain ⟨orderly, here, isOpen⟩ := orderly.declare (areRead.isRead (by simp) isWord _ .function inBody)
          (by simp only [Span.covers_iff, Span.start_between, Span.stop_between]; omega)
          (isFilled_addParameters _ source t.size params.span)
        rw [list]
        exact (orderly.fill here (isOpen.mono (by omega)) covers (isFilled_addLocals _ source t.size body declared)).1

theorem isOrderly_addKernels (orderly : t.IsOrderly (Symbol.IsExact source.text)) :
    (t.addKernels source span).IsOrderly (Symbol.IsExact source.text) := by
  refine foldl_findAll ensures_kernelHeader ?_ orderly
  rintro t found _ orderly ⟨rfl, isWord⟩ areRead -
  dsimp only
  split
  · exact orderly.setDetail (fun s d isExact => isExact) ..
  · have isName := List.mem_singleton_self found.value.name
    exact orderly.add_read (areRead.isRead isName isWord _ _ (areRead.covers isName))

theorem isOrderly_addMacros (orderly : t.IsOrderly (Symbol.IsExact source.text)) :
    (t.addMacros source span).IsOrderly (Symbol.IsExact source.text) := by
  refine foldl_findAll ensures_macroDefinition ?_ orderly
  rintro t found _ orderly ⟨rfl, isWord⟩ areRead -
  have isName := List.mem_singleton_self found.value.name
  exact orderly.add_read (areRead.isRead isName isWord _ _ (areRead.covers isName))

theorem isOrderly_addInclusions (orderly : t.IsOrderly (Symbol.IsExact source.text)) :
    (t.addInclusions source span).IsOrderly (Symbol.IsExact source.text) := by
  refine foldl_findAll ensures_inclusion ?_ orderly
  rintro t found _ orderly rfl areRead -
  have isPath := List.mem_singleton_self found.value
  exact orderly.add_root (areRead.covers isPath) ⟨areRead.slice _ isPath, .inl rfl⟩

theorem isOrderly_addVariable (orderly : t.IsOrderly (Symbol.IsExact source.text)) {name : Lexeme} {detail : String}
    {outer : Span} (isRead : Symbol.IsRead source.text span ⟨name.text, detail, .variable, outer, name.span⟩) :
    (t.addVariable name detail outer).IsOrderly (Symbol.IsExact source.text) := by
  unfold addVariable
  split
  · exact orderly
  · exact orderly.add_read isRead

theorem isOrderly_addGlobals (declared : List String) (orderly : t.IsOrderly (Symbol.IsExact source.text)) :
    (t.addGlobals source span declared).IsOrderly (Symbol.IsExact source.text) := by
  refine foldl_findAll ensures_globalDeclaration ?_ orderly
  rintro t found _ orderly ⟨rfl, isWord⟩ areRead -
  dsimp only
  split
  · exact orderly
  · exact isOrderly_addVariable orderly (areRead.isDeclarator isWord _ _ (areRead.stop_le (by simp)) (Nat.le_refl _))

/-- A pass that records resources where it wants to. -/
theorem isOrderly_addResources {scanner : Scanner ResourceDeclaration} (reads : Ensures [] scanner IsResource)
    (isWanted : Found ResourceDeclaration → Bool) (detail : ResourceDeclaration → String)
    (orderly : t.IsOrderly (Symbol.IsExact source.text)) :
    ((source.findAll span scanner).foldl (fun t found =>
      if isWanted found then t.addVariable found.value.name (detail found.value) found.span else t) t).IsOrderly
      (Symbol.IsExact source.text) := by
  refine foldl_findAll reads ?_ orderly
  rintro t found _ orderly ⟨rfl, isWord⟩ areRead -
  split
  · have isName := List.mem_singleton_self found.value.name
    exact isOrderly_addVariable orderly (areRead.isRead isName isWord _ _ (areRead.covers isName))
  · exact orderly

theorem isOrderly_addGroupVariables (orderly : t.IsOrderly (Symbol.IsExact source.text)) :
    (t.addGroupVariables source span).IsOrderly (Symbol.IsExact source.text) := by
  refine foldl_findAll ensures_groupVariable ?_ orderly
  rintro t found _ orderly ⟨rfl, isWord⟩ areRead -
  have isName := List.mem_singleton_self found.value.name
  exact isOrderly_addVariable orderly (areRead.isRead isName isWord _ _ (areRead.covers isName))

theorem isOrderly_addCode (room : source.brackets.HasRoom) (orderly : t.IsOrderly (Symbol.IsExact source.text)) :
    (t.addCode source span).IsOrderly (Symbol.IsExact source.text) := by
  -- from the last pass to the first one
  refine isOrderly_addResources ensures_writable (fun found => source.brackets.isTopLevel found.span.start)
    ResourceDeclaration.typeText ?_
  refine isOrderly_addGroupVariables ?_
  refine isOrderly_addResources (ensures_resourceDeclaration typedBuffers)
    (fun found => source.brackets.isTopLevel found.span.start) ResourceDeclaration.typeText ?_
  refine isOrderly_addResources (ensures_resourceDeclaration readableTextures)
    (fun found => source.brackets.isTopLevel found.span.start) (fun d => d.type.text) ?_
  refine isOrderly_addGlobals _ (isOrderly_addInclusions (isOrderly_addMacros (isOrderly_addKernels ?_)))
  exact isOrderly_addFunctions room _ (isOrderly_addBuffers room (isOrderly_addStructs room orderly))

end

end Outline

end ShaderAnalysis
