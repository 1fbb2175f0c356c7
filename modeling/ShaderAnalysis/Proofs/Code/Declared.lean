import ShaderAnalysis.Code.Locals

/-!
# Declared variables

The locals in scope are the variables that the declarations around a cursor declare (`declaredLocals`), those of the
block in front of those of the parameter list, without the ones whose names are known already
(`localsAtEnd_eq_foldl`). So the first declaration of a name is the one that is in scope (`find?_localsAtEnd`).
-/

namespace ShaderAnalysis.Scope

/-- The variables that are declared with a type that is no keyword. -/
def declare (origin : LocalOrigin) (found : List (String × String)) : List ScopeLocal :=
  (found.filter fun d => !Hlsl.keywords.contains d.1).map fun d => ⟨d.2, squeeze d.1, origin⟩

/-- What stands behind the innermost open brace, or the whole text. -/
def bodyAtEnd (text : String) : List Char :=
  ((splitAtOpen? '\x7b' '\x7d' 0 [] text.toList.reverse).map (·.2)).getD text.toList

/-- The header in front of the innermost open brace. -/
def headerAtEnd? (text : String) : Option Header :=
  (splitAtOpen? '\x7b' '\x7d' 0 [] text.toList.reverse).bind fun split => header? split.1

/-- The variables that a header declares: those of a loop belong to the block, all others are parameters. -/
def Header.declared (h : Header) : LocalOrigin → List ScopeLocal
  | .block => if h.head == "for" then declare .block (declarations h.list) else []
  | .parameter =>
    if h.head == "for" || controlHeads.contains h.head then [] else declare .parameter (parameters h.list)

/-- The variables that are declared in the block that is open at the end of the text, and in the header of the block. -/
def declaredLocals (text : String) : LocalOrigin → List ScopeLocal
  | .block =>
    declare .block (declarations (String.ofList (blankBlocks 0 (bodyAtEnd text)))) ++
      ((headerAtEnd? text).map (·.declared .block)).getD []
  | .parameter => ((headerAtEnd? text).map (·.declared .parameter)).getD []

/-- The variables with one more, unless one of them has its name. -/
def addNew (locals : List ScopeLocal) (l : ScopeLocal) : List ScopeLocal :=
  if locals.any (·.name == l.name) then locals else locals ++ [l]

theorem foldl_addLocal (origin : LocalOrigin) (found : List (String × String)) (locals : List ScopeLocal) :
    found.foldl (addLocal · origin) locals = (declare origin found).foldl addNew locals := by
  induction found generalizing locals with
  | nil => rfl
  | cons d found ih =>
    rw [List.foldl_cons, ih, declare, declare, List.filter_cons]
    cases isKeyword : Hlsl.keywords.contains d.1 with
    | true =>
      have skipped : addLocal locals origin d = locals := by
        unfold addLocal
        dsimp only
        rw [isKeyword, Bool.true_or, if_pos rfl]
      rw [skipped]
      rfl
    | false =>
      have added : addLocal locals origin d = addNew locals ⟨d.2, squeeze d.1, origin⟩ := by
        unfold addLocal addNew
        dsimp only
        rw [isKeyword, Bool.false_or]
      rw [added]
      rfl

theorem Header.locals_eq (h : Header) (locals : List ScopeLocal) :
    h.locals locals = (h.declared .block ++ h.declared .parameter).foldl addNew locals := by
  unfold Header.locals Header.declared
  cases isFor : h.head == "for" with
  | true =>
    rw [if_pos rfl, if_pos rfl, Bool.true_or, if_pos rfl, List.append_nil]
    exact foldl_addLocal ..
  | false =>
    rw [if_neg Bool.false_ne_true, if_neg Bool.false_ne_true, Bool.false_or, List.nil_append]
    split
    · rfl
    · exact foldl_addLocal ..

/-- The locals in scope are the declared ones without those that are hidden. -/
theorem localsAtEnd_eq_foldl (text : String) :
    localsAtEnd text = (declaredLocals text .block ++ declaredLocals text .parameter).foldl addNew [] := by
  have body : (declarations (String.ofList (blankBlocks 0 (bodyAtEnd text)))).foldl (addLocal · .block) [] =
      (declare .block (declarations (String.ofList (blankBlocks 0 (bodyAtEnd text))))).foldl addNew [] :=
    foldl_addLocal ..
  unfold localsAtEnd
  dsimp only
  split
  · rename_i h isHeader
    have isHeader : headerAtEnd? text = some h := isHeader
    rw [declaredLocals, declaredLocals, isHeader]
    simp only [Option.map_some, Option.getD_some, Header.locals_eq, List.append_assoc, List.foldl_append, ← body]
    rfl
  · rename_i noHeader
    have noHeader : headerAtEnd? text = none := noHeader
    rw [declaredLocals, declaredLocals, noHeader]
    simp only [Option.map_none, Option.getD_none, List.append_nil, ← body]
    rfl

theorem mem_of_mem_foldl_addNew {l : ScopeLocal} {locals added : List ScopeLocal}
    (member : l ∈ added.foldl addNew locals) : l ∈ locals ++ added := by
  induction added generalizing locals with
  | nil => exact List.mem_append_left [] member
  | cons l' added ih =>
    have further := ih member
    unfold addNew at further
    split at further
    · rcases List.mem_append.1 further with old | new
      · exact List.mem_append_left _ old
      · exact List.mem_append_right _ (List.mem_cons_of_mem _ new)
    · rwa [List.append_assoc, List.singleton_append] at further

/-- Every local in scope is declared. -/
theorem mem_declaredLocals {text : String} {l : ScopeLocal} (member : l ∈ localsAtEnd text) :
    l ∈ declaredLocals text .block ∨ l ∈ declaredLocals text .parameter := by
  rw [localsAtEnd_eq_foldl] at member
  have isDeclared := mem_of_mem_foldl_addNew member
  rw [List.nil_append] at isDeclared
  exact List.mem_append.1 isDeclared

end ShaderAnalysis.Scope
