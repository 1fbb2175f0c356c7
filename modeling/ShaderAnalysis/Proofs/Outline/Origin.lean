import ShaderAnalysis.Proofs.Lexical.Enclosing
import ShaderAnalysis.Proofs.Outline.Growth
import ShaderAnalysis.Proofs.Outline.Parameters
import ShaderAnalysis.Proofs.Outline.TypeWord

/-!
# Where the symbols of plain code come from

Each pass over plain code puts symbols of one kind into the outline, and checks some of what it has read before it
does so. What the passes have checked is known of every symbol of the outline (`placed_extract`): a variable at the top
stands outside all braces with a type that no statement starts with, or the pass for group variables has put it there,
which checks nothing (`IsTop`); what is below another symbol is a parameter in the list of a function, or a declaration
in a body with such a type (`IsBelow`).

Such things are said of a symbol by itself if it is a root, and of a symbol together with the one above it otherwise.
They hold of a whole outline (`Outline.Placed`) if they hold of each symbol when it is put into the outline, for what
is above a symbol is there before it and never changes its place.
-/

namespace ShaderAnalysis

namespace Outline

/-! ## What stands where -/

section Placement

/-- Every root satisfies `top`, and every other symbol `below` together with the one above it. -/
def Placed (top : Symbol → Prop) (below : Symbol → Symbol → Prop) (t : Outline) : Prop :=
  ∀ id s, t.get? id = some s →
    (t.parent? id = none ∧ top s) ∨ ∃ above f, t.parent? id = some above ∧ t.get? above = some f ∧ below f s

variable {top : Symbol → Prop} {below : Symbol → Symbol → Prop} {t : Outline} {id : Nat} {f s : Symbol}
  {members : List Symbol}

theorem placed_empty : Placed top below empty := by
  intro id s here
  cases here

theorem Placed.push (placed : Placed top below t) (parent : Option Nat) (s : Symbol)
    (isPlaced : (parent = none ∧ top (t.fit parent s)) ∨
      ∃ above f, parent = some above ∧ t.get? above = some f ∧ below f (t.fit parent s)) :
    Placed top below (t.push parent s).1 := by
  intro id s' here
  rw [get?_push] at here
  rw [parent?_push]
  split at here
  · rename_i new
    cases here
    rw [if_pos new]
    rcases isPlaced with isRoot | ⟨above, f, knows, isAbove, isBelow⟩
    · exact .inl isRoot
    · exact .inr ⟨above, f, knows, get?_push_of_some isAbove parent s, isBelow⟩
  · rename_i old
    rw [if_neg old]
    rcases placed id s' here with isRoot | ⟨above, f, knows, isAbove, isBelow⟩
    · exact .inl isRoot
    · exact .inr ⟨above, f, knows, get?_push_of_some isAbove parent s, isBelow⟩

theorem Placed.push_top (placed : Placed top below t) (isTop : top (t.fit none s)) :
    Placed top below (t.push none s).1 :=
  placed.push none s (.inl ⟨rfl, isTop⟩)

theorem Placed.push_below (placed : Placed top below t) (here : t.get? id = some f)
    (isBelow : below f (t.fit (some id) s)) : Placed top below (t.push (some id) s).1 :=
  placed.push (some id) s (.inr ⟨id, f, rfl, here, isBelow⟩)

/-- Symbols that lie inside the one above them are put below it as they are. -/
theorem Placed.addAll (placed : Placed top below t) (here : t.get? id = some f)
    (inside : ∀ m ∈ members, f.span.covers m.span = true ∧ m.span.covers m.selection = true)
    (areBelow : ∀ m ∈ members, below f m) : Placed top below (t.addAll id members) := by
  induction members generalizing t with
  | nil => exact placed
  | cons m members ih =>
    obtain ⟨spanInside, selectionInside⟩ := inside m List.mem_cons_self
    have fits := fit_of_covers here spanInside selectionInside
    rw [addAll_cons]
    refine ih (placed.push_below here ?_) (get?_push_of_some here ..)
      (fun m' member => inside m' (List.mem_cons_of_mem _ member))
      fun m' member => areBelow m' (List.mem_cons_of_mem _ member)
    rw [fits]
    exact areBelow m List.mem_cons_self

/-- Nothing is said of the details of roots. -/
theorem Placed.setDetail (placed : Placed top below t) (tops : ∀ s detail, top s → top { s with detail })
    (belows : ∀ f s detail, below f s → below { f with detail } s) (isRoot : t.parent? id = none) (detail : String) :
    Placed top below (t.setDetail id detail) := by
  intro other s here
  rw [get?_setDetail] at here
  rw [parent?_setDetail]
  obtain ⟨s', isOld, rfl⟩ := Option.map_eq_some_iff.1 here
  rcases placed other s' isOld with ⟨knows, isTop⟩ | ⟨above, f, knows, isAbove, isBelow⟩
  · refine .inl ⟨knows, ?_⟩
    split
    · exact tops s' detail isTop
    · exact isTop
  · have elsewhere : id ≠ other := by
      rintro rfl
      cases isRoot.symm.trans knows
    refine .inr ⟨above, _, knows, by rw [get?_setDetail, isAbove, Option.map_some], ?_⟩
    rw [if_neg elsewhere]
    split
    · exact belows f s' detail isBelow
    · exact isBelow

end Placement

/-! ## The passes over plain code -/

open Scanner

/-- The variables that the text declares as shared by a group of threads. -/
def groupVariables (text : String) : List (Found Declarator) :=
  (Source.ofText text).findAll (Source.ofText text).whole groupVariable

/-- The name of the symbol stands behind this type in the masked text, and no statement starts with the type. -/
structure IsTyped (text : String) (type : Lexeme) (s : Symbol) : Prop where
  types : (Cursor.ofText (Lexical.mask text) 0).Types type s.selection.start
  unguarded : Hlsl.isDeclarationGuard type.text = false

/-- The symbol is read off the body of a declaration, with such a type. -/
def IsMember (text : String) (body : Span) (s : Symbol) : Prop :=
  s.IsRead (Source.ofText text).text body ∧ ∃ type, IsTyped text type s

/-- Where a symbol at the top of plain code comes from. -/
inductive IsTop (text : String) (s : Symbol) : Prop where
  | construct (noVariable : s.kind ≠ .variable) (noField : s.kind ≠ .field)
  | global {type : Lexeme} (typed : IsTyped text type s) (start : type.span.start = s.span.start)
      (outside : ¬(Brackets.ofText text).InBraces s.span.start)
  | shared {found : Found Declarator} (member : found ∈ groupVariables text) (span : s.span = found.span)
      (selection : s.selection = found.value.name.span)

/-- Where a symbol below another one of plain code comes from. -/
inductive IsBelow (text : String) (f s : Symbol) : Prop where
  | parameter {members : List Symbol} (declared : IsDeclared (.ofText text) f members) (member : s ∈ members)
  | member {type : Lexeme} (typed : IsTyped text type s)
      (inside : (Brackets.ofText text).InBraces s.selection.start)

variable {text : String} {t : Outline} {id : Nat} {f : Symbol} {members : List Symbol}

/-! ## Bodies -/

/-- In front of a body is its brace. -/
theorem startsApart_of_braceAt? {offset : Nat} {region body : Span}
    (braces : (Source.ofText text).brackets.braceAt? offset = some (region, body)) :
    StartsApart (Source.ofText text).text body := by
  obtain ⟨brace, -, -, start⟩ := @Brackets.opener_of_braceAt? (Lexical.mask text) _ _ _ braces
  intro front back chars length x isLast
  obtain ⟨before, rfl⟩ := List.getLast?_eq_some_iff.1 isLast
  have split : (Lexical.mask text).toList = before ++ ([x] ++ back) := by
    rw [← List.append_assoc]
    exact chars
  have positive : 0 < Text.length8 [x] := Text.length8_pos
  rw [Text.length8_append] at length
  obtain ⟨c, member, isBrace⟩ := Text.exists_mem_of_ascii split brace (by decide) (by omega) (by omega)
  have : x = '\x7b' := Char.toNat_inj.1 (List.mem_singleton.1 member ▸ isBrace)
  rw [this]
  decide

/-- A declaration reaches from its head to the end of its body. -/
theorem covers_of_braceAt? {head name region body : Span}
    (braces : (Source.ofText text).brackets.braceAt? (head.stop - 1) = some (region, body))
    (inside : head.covers name = true) : (Span.between head.start region.stop).covers name = true := by
  obtain ⟨reaches, -, -⟩ := (hasRoom_ofText text).braceAt?_behind head.start_le_stop braces
  rw [Span.covers_iff] at inside
  simp only [Span.covers_iff, Span.start_between, Span.stop_between]
  omega

/-- What is read off a body is in its braces. -/
theorem isBelow_of_body {offset : Nat} {region body : Span}
    (braces : (Source.ofText text).brackets.braceAt? offset = some (region, body)) {s : Symbol}
    (isRead : s.IsRead (Source.ofText text).text body) {type : Lexeme} (typed : IsTyped text type s) :
    IsBelow text f s := by
  rw [Source.brackets_ofText] at braces
  have inside := Span.covers_iff.1 isRead.inside
  have selection := Span.covers_iff.1 isRead.selection
  have := isRead.start_lt_stop
  exact .member typed (Brackets.inBraces_of_braceAt? braces (by omega) (by omega))

/-- A pass that records the declarations in a body whose types are no words of a statement. -/
theorem exists_addAll_of_declarators {scanner : Scanner Declarator} (reads : Ensures [] scanner IsDeclarator)
    (types : ∀ c d e, scanner c = some (d, e) → c.Types d.type d.name.span.start) {body : Span}
    (apart : StartsApart (Source.ofText text).text body) {skips : Found Declarator → Bool}
    (unguarded : ∀ found, skips found = false → Hlsl.isDeclarationGuard found.value.type.text = false)
    {symbol : Found Declarator → Symbol} (isNamed : ∀ found, (symbol found).selection = found.value.name.span)
    (isRead : ∀ found ∈ (Source.ofText text).findAll body scanner,
      (symbol found).IsRead (Source.ofText text).text found.span) (t : Outline) (id : Nat) :
    ∃ members, ((Source.ofText text).findAll body scanner).foldl (fun t found =>
        if skips found then t else t.add (some id) (symbol found)) t = t.addAll id members ∧
      ∀ m ∈ members, IsMember text body m := by
  have steps : ∀ found ∈ (Source.ofText text).findAll body scanner, ∀ t : Outline,
      (if skips found then t else t.add (some id) (symbol found)) = t ∨
        ∃ s, (if skips found then t else t.add (some id) (symbol found)) = t.add (some id) s ∧
          IsMember text body s ∧ found.span.covers s.span = true := by
    intro found member t
    split
    · exact .inl rfl
    · rename_i kept
      rw [Bool.not_eq_true] at kept
      have inside := (mem_findAll_ofSpan reads member).2
      have typed : IsTyped text found.value.type (symbol found) :=
        ⟨isNamed found ▸ types_of_mem_findAll types member apart, unguarded _ kept⟩
      exact .inr ⟨_, rfl, ⟨(isRead found member).mono inside, _, typed⟩, (isRead found member).inside⟩
  obtain ⟨members, run, -, holds⟩ := exists_addAll_of_foldl
    (IsMember text body)
    (pairwise_findAll scanner (.ofSpan (Source.ofText text).text body)) steps t
  exact ⟨members, run, fun m member => (holds m member).1⟩

/-- What is read off a span inside a symbol is put below it as it is. -/
theorem Placed.fill (placed : Placed (IsTop text) (IsBelow text) t) (here : t.get? id = some f) {span : Span}
    (covers : f.span.covers span = true)
    (isRead : ∀ m ∈ members, m.IsRead (Source.ofText text).text span) (areBelow : ∀ m ∈ members, IsBelow text f m) :
    Placed (IsTop text) (IsBelow text) (t.addAll id members) :=
  placed.addAll here (fun m member => ⟨((isRead m member).mono covers).inside, (isRead m member).selection⟩) areBelow

theorem Placed.push_construct {s : Symbol} (placed : Placed (IsTop text) (IsBelow text) t)
    (noVariable : s.kind ≠ .variable) (noField : s.kind ≠ .field) :
    Placed (IsTop text) (IsBelow text) (t.push none s).1 :=
  placed.push_top (.construct noVariable noField)

/-- A construct at the top is what it is put there as. -/
theorem get?_push_top {s : Symbol} (covers : s.span.covers s.selection = true) (t : Outline) :
    (t.push none s).1.get? t.size = some s := by
  rw [get?_push, if_pos rfl, fit_none, Span.clampTo_of_covers covers]

/-! ## Passes -/

section

variable {offset : Nat} {region body : Span}

theorem exists_addMembers (braces : (Source.ofText text).brackets.braceAt? offset = some (region, body)) (t : Outline)
    (id : Nat) : ∃ members, t.addMembers (.ofText text) id body = t.addAll id members ∧
      ∀ m ∈ members, IsMember text body m := by
  refine exists_addAll_of_declarators ensures_structMember (fun _ _ _ => types_structMember)
    (startsApart_of_braceAt? braces) (fun _ kept => kept) (fun _ => rfl) (fun found member => ?_) t id
  obtain ⟨⟨_, ⟨rfl, isWord⟩, areRead⟩, -⟩ := mem_findAll_ofSpan ensures_structMember member
  exact areRead.isDeclarator isWord _ _ (areRead.stop_le (by simp)) (Nat.le_refl _)

theorem exists_addBufferMembers (braces : (Source.ofText text).brackets.braceAt? offset = some (region, body))
    (t : Outline) (id : Nat) :
    ∃ members, ((Source.ofText text).findAll body bufferMember).foldl (fun t member =>
        let d := member.value
        if Hlsl.isDeclarationGuard d.type.text then t
        else
          t.add (some id) ⟨d.name.text, d.type.text ++ sizeText d.sizes.head?, .field,
            .between d.type.span.start member.span.stop, d.name.span⟩) t = t.addAll id members ∧
      ∀ m ∈ members, IsMember text body m := by
  refine exists_addAll_of_declarators ensures_bufferMember (fun _ _ _ => types_bufferMember)
    (startsApart_of_braceAt? braces) (fun _ kept => kept) (fun _ => rfl) (fun found member => ?_) t id
  obtain ⟨⟨_, ⟨rfl, isWord⟩, areRead⟩, -⟩ := mem_findAll_ofSpan ensures_bufferMember member
  exact areRead.isDeclarator isWord _ _ (areRead.stop_le (by simp)) (Nat.le_refl _)

/-- What is plausible as a type starts no statement. -/
theorem unguarded_of_isDeclarationType {name : String} {declared : List String}
    (isType : Hlsl.isDeclarationType name declared = true) : Hlsl.isDeclarationGuard name = false := by
  rw [Hlsl.isDeclarationType, Bool.and_eq_true, Bool.not_eq_true'] at isType
  exact isType.1

theorem exists_addLocals (braces : (Source.ofText text).brackets.braceAt? offset = some (region, body)) (t : Outline)
    (id : Nat) (declared : List String) : ∃ members, t.addLocals (.ofText text) id body declared = t.addAll id members ∧
      ∀ m ∈ members, IsMember text body m := by
  refine exists_addAll_of_declarators ensures_localDeclaration (fun _ _ _ => types_localDeclaration)
    (startsApart_of_braceAt? braces) (fun found kept => ?_) (fun _ => rfl) (fun found member => ?_) t id
  · rw [Bool.or_eq_false_iff, Bool.not_eq_false'] at kept
    exact unguarded_of_isDeclarationType kept.2
  · obtain ⟨⟨_, ⟨rfl, isWord⟩, areRead⟩, -⟩ := mem_findAll_ofSpan ensures_localDeclaration member
    have isName : found.value.name ∈ [found.value.type, found.value.name] := by simp
    exact areRead.isRead isName isWord _ _ (areRead.covers isName)

/-- What is declared in a body is put below its declaration. -/
theorem Placed.fillBody (placed : Placed (IsTop text) (IsBelow text) t)
    (braces : (Source.ofText text).brackets.braceAt? offset = some (region, body)) (here : t.get? id = some f)
    (covers : f.span.covers body = true) {t' : Outline} (filled : ∃ members, t' = t.addAll id members ∧
      ∀ m ∈ members, IsMember text body m) :
    Placed (IsTop text) (IsBelow text) t' := by
  obtain ⟨members, rfl, holds⟩ := filled
  refine placed.fill here covers (fun m member => (holds m member).1) fun m member => ?_
  obtain ⟨isRead, type, typed⟩ := holds m member
  exact isBelow_of_body braces isRead typed

end

theorem IsTop.setDetail {s : Symbol} (isTop : IsTop text s) (detail : String) : IsTop text { s with detail } := by
  cases isTop with
  | construct noVariable noField => exact .construct noVariable noField
  | global typed start outside => exact .global ⟨typed.types, typed.unguarded⟩ start outside
  | shared member span selection => exact .shared member span selection

theorem IsBelow.setDetail {s : Symbol} (isBelow : IsBelow text f s) (detail : String) :
    IsBelow text { f with detail } s := by
  cases isBelow with
  | parameter declared member =>
    obtain ⟨span, found, isFound, isFunction, headed, rfl⟩ := declared
    exact .parameter ⟨span, found, isFound, isFunction, ⟨headed.name, headed.selection, headed.start, headed.stop⟩, rfl⟩
      member
  | member typed inside => exact .member typed inside

theorem placed_addStructs (placed : Placed (IsTop text) (IsBelow text) t) (span : Span) :
    Placed (IsTop text) (IsBelow text) (t.addStructs (.ofText text) span) := by
  refine List.foldlRecOn _ _ placed fun t placed found member => ?_
  dsimp only
  split
  · exact placed
  · rename_i region body braces
    split
    · exact placed
    · obtain ⟨-, -, covers⟩ := (hasRoom_ofText text).braceAt?_behind found.span.start_le_stop braces
      have selection := covers_of_braceAt? braces (covers_name ensures_structHeader member).1
      exact (placed.push_construct (by simp) (by simp)).fillBody braces (get?_push_top selection t) covers
        (exists_addMembers braces _ _)

theorem placed_addBuffers (placed : Placed (IsTop text) (IsBelow text) t) (span : Span) :
    Placed (IsTop text) (IsBelow text) (t.addBuffers (.ofText text) span) := by
  refine List.foldlRecOn _ _ placed fun t placed found member => ?_
  dsimp only
  split
  · exact placed
  · rename_i region body braces
    obtain ⟨-, -, covers⟩ := (hasRoom_ofText text).braceAt?_behind found.span.start_le_stop braces
    have selection := covers_of_braceAt? braces (covers_name ensures_bufferHeader member).1
    exact (placed.push_construct (by simp) (by simp)).fillBody braces (get?_push_top selection t) covers
      (exists_addBufferMembers braces _ _)

theorem placed_addFunctions (placed : Placed (IsTop text) (IsBelow text) t) (span : Span) (declared : List String) :
    Placed (IsTop text) (IsBelow text) (t.addFunctions (.ofText text) span declared) := by
  refine List.foldlRecOn _ _ placed fun t placed found member => ?_
  dsimp only
  split
  · exact placed
  · rename_i isFunction
    rw [Bool.or_eq_true, not_or, Bool.not_eq_true] at isFunction
    split
    · exact placed
    · rename_i region body braces
      split
      · exact placed
      · obtain ⟨start, name, list, -⟩ := places_of_mem_findAll member
        have inside := found.span.start_le_stop
        obtain ⟨reaches, -, covers⟩ := (hasRoom_ofText text).braceAt?_behind inside braces
        have selection := start ▸ covers_of_braceAt? braces name
        have listCovers := start ▸ covers_of_braceAt? braces list
        -- the function with its parameters, then its locals
        rw [addParameters_eq_addAll]
        refine Placed.fillBody ?_ braces (get?_addAll _ (get?_push_top selection t)) (start ▸ covers)
          (exists_addLocals braces _ _ declared)
        refine (placed.push_construct (by simp) (by simp)).fill (get?_push_top selection t) listCovers
          (fun m isParameter => isRead_parameterSymbols isParameter) fun m isParameter => ?_
        refine .parameter ⟨_, found, member, isFunction.1, ⟨rfl, rfl, start, ?_⟩, rfl⟩ isParameter
        simp only [Span.stop_between]
        omega

/-- A kernel that is a function already only gets another detail, and functions are at the top. -/
theorem placed_addKernels (forest : t.IsForest) (placed : Placed (IsTop text) (IsBelow text) t) (span : Span) :
    Placed (IsTop text) (IsBelow text) (t.addKernels (.ofText text) span) := by
  refine (List.foldlRecOn (motive := fun t : Outline => t.IsForest ∧ Placed (IsTop text) (IsBelow text) t) _ _
    ⟨forest, placed⟩ fun t ⟨forest, placed⟩ found _ => ?_).2
  dsimp only
  split
  · rename_i id isIt
    have isRoot := (forest.root id (List.mem_of_find?_eq_some isIt)).2
    exact ⟨forest.setDetail id _, placed.setDetail (fun _ _ isTop => isTop.setDetail _)
      (fun _ _ _ isBelow => isBelow.setDetail _) isRoot _⟩
  · exact ⟨forest.push none _, placed.push_construct nofun nofun⟩

theorem placed_addMacros (placed : Placed (IsTop text) (IsBelow text) t) (span : Span) :
    Placed (IsTop text) (IsBelow text) (t.addMacros (.ofText text) span) :=
  List.foldlRecOn _ _ placed fun _ placed _ _ => placed.push_construct nofun nofun

theorem placed_addInclusions (placed : Placed (IsTop text) (IsBelow text) t) (span : Span) :
    Placed (IsTop text) (IsBelow text) (t.addInclusions (.ofText text) span) :=
  List.foldlRecOn _ _ placed fun _ placed _ _ => placed.push_construct nofun nofun

theorem placed_addVariable (placed : Placed (IsTop text) (IsBelow text) t) {name : Lexeme} {detail : String}
    {span : Span} (covers : span.covers name.span = true)
    (isTop : IsTop text ⟨name.text, detail, .variable, span, name.span⟩) :
    Placed (IsTop text) (IsBelow text) (t.addVariable name detail span) := by
  unfold addVariable
  split
  · exact placed
  · refine placed.push_top ?_
    rw [fit_none, Span.clampTo_of_covers covers]
    exact isTop

theorem placed_addGlobals (placed : Placed (IsTop text) (IsBelow text) t) {span : Span} (start : span.start = 0)
    (declared : List String) : Placed (IsTop text) (IsBelow text) (t.addGlobals (.ofText text) span declared) := by
  refine List.foldlRecOn _ _ placed fun t placed found member => ?_
  dsimp only
  split
  · exact placed
  · rename_i kept
    rw [Bool.or_eq_true, Bool.or_eq_true, not_or, not_or, Bool.not_eq_true', Bool.not_eq_false, Bool.not_eq_true',
      Bool.not_eq_false] at kept
    obtain ⟨⟨_, ⟨rfl, isWord⟩, areRead⟩, -⟩ := mem_findAll_ofSpan ensures_globalDeclaration member
    have isRead := areRead.isDeclarator isWord "" .variable (areRead.stop_le (by simp)) (Nat.le_refl _)
    have types := types_of_mem_findAll (fun _ _ _ => types_globalDeclaration) member (startsApart_zero start)
    refine placed_addVariable placed isRead.selection (.global ⟨types, unguarded_of_isDeclarationType kept.1.2⟩ rfl ?_)
    rw [← Brackets.isTopLevel_ofText, ← Source.brackets_ofText]
    exact kept.2

/-- A pass that records resources of some types outside braces. -/
theorem placed_addResources {scanner : Scanner ResourceDeclaration} (reads : Ensures [] scanner IsResource)
    (types : ∀ c r d, scanner c = some (r, d) → Hlsl.isDeclarationGuard r.type.text = false ∧
      r.type.span.start = c.offset ∧ c.Types r.type r.name.span.start) (detail : ResourceDeclaration → String)
    (placed : Placed (IsTop text) (IsBelow text) t) {span : Span} (start : span.start = 0) :
    Placed (IsTop text) (IsBelow text) (((Source.ofText text).findAll span scanner).foldl (fun t found =>
      if (Source.ofText text).brackets.isTopLevel found.span.start then
        t.addVariable found.value.name (detail found.value) found.span
      else t) t) := by
  refine List.foldlRecOn _ _ placed fun t placed found member => ?_
  split
  · rename_i isTopLevel
    obtain ⟨⟨_, ⟨rfl, isWord⟩, areRead⟩, -⟩ := mem_findAll_ofSpan reads member
    obtain ⟨c, d, stands, ran, is⟩ := exists_place_of_mem_findAll member (startsApart_zero start)
    obtain ⟨unguarded, typeStart, isTyped⟩ := types c _ d ran
    refine placed_addVariable placed (areRead.covers (List.mem_singleton_self _))
      (.global ⟨stands.types isTyped, unguarded⟩ ?_ ?_)
    · rw [typeStart, is, Span.start_between]
    · rw [← Brackets.isTopLevel_ofText, ← Source.brackets_ofText]
      exact isTopLevel
  · exact placed

theorem placed_addGroupVariables (placed : Placed (IsTop text) (IsBelow text) t) :
    Placed (IsTop text) (IsBelow text) (t.addGroupVariables (.ofText text) (Source.ofText text).whole) := by
  refine List.foldlRecOn _ _ placed fun t placed found member => ?_
  exact placed_addVariable placed (covers_name ensures_groupVariable member).1 (.shared member rfl rfl)

/-- No type of a resource starts a statement. -/
theorem unguarded_of_resource {types : List String} (unguarded : ∀ type ∈ types, Hlsl.isDeclarationGuard type = false)
    {c d : Cursor} {r : ResourceDeclaration} (ran : resourceDeclaration types c = some (r, d)) :
    Hlsl.isDeclarationGuard r.type.text = false ∧ r.type.span.start = c.offset ∧ c.Types r.type r.name.span.start := by
  obtain ⟨isOne, start, isTyped⟩ := types_resourceDeclaration ran
  exact ⟨unguarded _ (List.contains_iff_mem.1 isOne), start, isTyped⟩

theorem unguarded_of_writable {c d : Cursor} {r : ResourceDeclaration}
    (ran : addWritableTextures.writable c = some (r, d)) :
    Hlsl.isDeclarationGuard r.type.text = false ∧ r.type.span.start = c.offset ∧ c.Types r.type r.name.span.start := by
  obtain ⟨r', c', first, ran⟩ := bind_eq_some.1 ran
  obtain ⟨_, c'', -, ran⟩ := bind_eq_some.1 ran
  cases ran
  exact unguarded_of_resource (by decide) first

/-- Every symbol of plain code has come from one of the passes. -/
theorem placed_extract (text : String) : Placed (IsTop text) (IsBelow text) (extract .hlsl text) := by
  have start : (Source.ofText text).whole.start = 0 := rfl
  -- from the last pass to the first one
  refine placed_addResources ensures_writable (fun c r d => unguarded_of_writable) ResourceDeclaration.typeText ?_ start
  refine placed_addGroupVariables ?_
  refine placed_addResources (ensures_resourceDeclaration typedBuffers)
    (fun c r d => unguarded_of_resource (by decide)) ResourceDeclaration.typeText ?_ start
  refine placed_addResources (ensures_resourceDeclaration readableTextures)
    (fun c r d => unguarded_of_resource (by decide)) (fun d => d.type.text) ?_ start
  refine placed_addGlobals (placed_addInclusions (placed_addMacros (placed_addKernels ?_ ?_ _) _) _) start _
  · exact isForest_empty.of_grows (((grows_addStructs ..).trans (grows_addBuffers ..)).trans (grows_addFunctions ..))
  · exact placed_addFunctions (placed_addBuffers (placed_addStructs placed_empty _) _) _ _

end Outline

end ShaderAnalysis
